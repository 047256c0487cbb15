import Messenger.Schema.Term

/-!
# Dates

A date is a number of seconds since the start of 1970, within the years that the calendar has. The
server's dates have 32 bits, so all of them are within.
-/

namespace Messenger

/-- A moment, in seconds since the start of 1970. -/
structure Date where
  seconds : Int64
deriving DecidableEq, Inhabited

namespace Date

/-- The first second of the calendar, at the start of the year -262143. -/
def firstSecond : Int64 := -8334601228800

/-- The last second of the calendar, at the end of the year 262142. -/
def lastSecond : Int64 := 8210266876799

/-- The date with the given seconds, if the calendar has it. -/
def ofSeconds? (seconds : Int64) : Option Date :=
  if firstSecond ≤ seconds ∧ seconds ≤ lastSecond then some ⟨seconds⟩ else none

/-- The date that the server sent. -/
def ofTimestamp (timestamp : Int32) : Date :=
  ⟨timestamp.toInt64⟩

/-- The date that the server sent, where zero means that there is none. -/
def ofTimestamp? (timestamp : Int32) : Option Date :=
  if timestamp = 0 then none else some (ofTimestamp timestamp)

/-- The date as the server wants it: the seconds in 32 bits, wrapped around if they do not fit. -/
def timestamp (date : Date) : Int32 :=
  date.seconds.toInt32

/-! ## The calendar -/

/-- The year, the month and the day of a day counted from the start of 1970. Years are counted from
March here, so that the leap day is the last of its year, in eras of 400 years. -/
def civil (day : Int) : Int × Int × Int :=
  let shifted := day + 719468
  let era := shifted.fdiv 146097
  let dayOfEra := shifted.fmod 146097
  let yearOfEra := (dayOfEra - dayOfEra / 1460 + dayOfEra / 36524 - dayOfEra / 146096) / 365
  let dayOfYear := dayOfEra - (365 * yearOfEra + yearOfEra / 4 - yearOfEra / 100)
  let monthFromMarch := (5 * dayOfYear + 2) / 153
  let dayOfMonth := dayOfYear - (153 * monthFromMarch + 2) / 5 + 1
  let month := if monthFromMarch < 10 then monthFromMarch + 3 else monthFromMarch - 9
  let year := yearOfEra + era * 400 + (if month ≤ 2 then 1 else 0)
  (year, month, dayOfMonth)

/-- The digits of a number, with zeros in front up to the width. -/
def padded (width : Nat) (value : Nat) : String :=
  let digits := Nat.toDigits 10 value
  .ofList (List.replicate (width - digits.length) '0' ++ digits)

/-- The date and the time of day in universal time. -/
def text (date : Date) : String :=
  let day := date.seconds.toInt.fdiv 86400
  let second := (date.seconds.toInt.fmod 86400).toNat
  let (year, month, dayOfMonth) := civil day
  s!"{padded 4 year.toNat}-{padded 2 month.toNat}-{padded 2 dayOfMonth.toNat}T" ++
    s!"{padded 2 (second / 3600)}:{padded 2 (second / 60 % 60)}:{padded 2 (second % 60)}Z"

/-- The outline of the date, for descriptions. -/
def outline (date : Date) : Term :=
  .bare date.text

end Date

end Messenger
