import Messenger.Width

/-!
# Numerals

Integers as they are written in ASCII digits, with an optional sign.
-/

namespace Messenger.Text

/-- The value of a digit. -/
def digitValue (c : Char) : Nat :=
  c.toNat - '0'.toNat

/-- The number that a text of digits writes, read after `start`. -/
def valueFrom (start : Nat) (digits : List Char) : Nat :=
  digits.foldl (fun value c => value * 10 + digitValue c) start

/-- The number that a text of digits writes; there must be a digit, and nothing else. -/
def readNat? (text : List Char) : Option Nat :=
  if text ≠ [] ∧ text.all (·.isDigit) then some (valueFrom 0 text) else none

/-- The integer that a text writes: digits behind at most one sign. -/
def readInt? : List Char → Option Int
  | '-' :: digits => (readNat? digits).map fun value => -(value : Int)
  | '+' :: digits => (readNat? digits).map fun value => (value : Int)
  | digits => (readNat? digits).map fun value => (value : Int)

/-- The 64-bit integer that a text writes, if the number fits. -/
def readInt64? (text : List Char) : Option Int64 :=
  (readInt? text).bind int64?

end Messenger.Text
