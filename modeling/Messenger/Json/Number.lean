import Messenger.Json
import Messenger.Text.Numeral

/-!
# Number literals

How the numbers of a document are read:

1. **Grammar** (`NumberLiteral.ofText?`): a sign, digits without a leading zero, digits behind a
   point, and an exponent. Only the digits before the point have to be there.
2. **Integers** (`NumberLiteral.integer?`): a literal of digits alone is an integer if 64 bits hold
   it, with a sign or without one. The negative zero is no integer.
3. **Reals** (`NumberLiteral.real?`): any other literal is read in floating-point steps. Its digits
   make up a significand as long as that fits into 64 bits; the significand is rounded to a
   floating-point number, and the result is multiplied or divided by a power of ten. Each step
   rounds, so what is read can be a neighbour of the floating-point number closest to the literal.
   A literal beyond the largest floating-point number is refused.
-/

namespace Messenger

namespace Json

/-- A number as it is written. -/
structure NumberLiteral where
  negative : Bool
  /-- The digits before the point. -/
  whole : List Char
  /-- The digits behind the point, if there is one. -/
  fraction : Option (List Char)
  exponent : Option Int
deriving DecidableEq

namespace NumberLiteral

/-! ## Grammar -/

/-- The digits that a text starts with, of which there must be one, and the text behind them. -/
def digits? (text : List Char) : Option (List Char × List Char) :=
  let digits := text.takeWhile (·.isDigit)
  if digits = [] then none else some (digits, text.dropWhile (·.isDigit))

/-- The digits before the point: a zero stands alone. -/
def whole? (text : List Char) : Option (List Char × List Char) :=
  (digits? text).filter fun (digits, _) => digits.head? ≠ some '0' ∨ digits.length = 1

/-- The digits behind the point, where a text starts with one. -/
def fraction? : List Char → Option (Option (List Char) × List Char)
  | '.' :: text => (digits? text).map fun (digits, rest) => (some digits, rest)
  | text => some (none, text)

/-- The exponent, where a text starts with one; nothing may stand behind it. -/
def exponent? : List Char → Option (Option Int)
  | [] => some none
  | mark :: text => if mark = 'e' ∨ mark = 'E' then (Text.readInt? text).map some else none

/-- The literal that a text is. -/
def ofText? (text : List Char) : Option NumberLiteral := do
  let negative := text.head? == some '-'
  let (whole, text) ← whole? (if negative then text.tail else text)
  let (fraction, text) ← fraction? text
  let exponent ← exponent? text
  return { negative, whole, fraction, exponent }

/-! ## Integers -/

/-- The integer that a literal writes, if it is one and 64 bits hold it. -/
def integer? (literal : NumberLiteral) : Option Int :=
  let magnitude := Text.valueFrom 0 literal.whole
  if literal.fraction.isSome ∨ literal.exponent.isSome then none
  else if literal.negative then
    if 0 < magnitude ∧ magnitude ≤ Int64.minValue.toInt.natAbs then some (-(magnitude : Int))
    else none
  else if magnitude < UInt64.size then some magnitude
  else none

/-! ## Reals -/

/-- Reads digits after `start` as long as the number fits into 64 bits. Gives the number and how
many digits it took. -/
def absorb (start : Nat) : List Char → Nat × Nat
  | [] => (start, 0)
  | digit :: rest =>
    let next := start * 10 + Text.digitValue digit
    if next < UInt64.size then
      let (number, count) := absorb next rest
      (number, count + 1)
    else (start, 0)

/-- The greatest exponent of a power of ten that is a floating-point number. -/
def maxPower : Nat := 308

/-- The floating-point number closest to the power of ten. -/
def powerOfTen (exponent : Nat) : Float :=
  .ofScientific 1 false exponent

/-- The number divided by a power of ten, one representable power after the other. -/
def shrink (number : Float) (places : Nat) : Float :=
  if places ≤ maxPower then number / powerOfTen places
  else if number == 0 then number
  else shrink (number / powerOfTen maxPower) (places - maxPower)
termination_by places
decreasing_by simp_all only [maxPower]; omega

/-- The number, which is not negative, times a power of ten, if the product is finite. -/
def scaled? (number : Float) (exponent : Int) : Option Float :=
  if exponent < 0 then some (shrink number (-exponent).toNat)
  else if exponent ≤ maxPower then
    some (number * powerOfTen exponent.toNat) |>.filter fun product => !product.isInf
  else if number == 0 then some number
  else none

/-- The floating-point number that a literal is read as. A digit before the point that the
significand has no room for counts as a place, and the digits behind the point go on where the
significand stopped. -/
def real? (literal : NumberLiteral) : Option Float :=
  let (leading, before) := absorb 0 literal.whole
  let (significand, behind) := absorb leading (literal.fraction.getD [])
  let places : Int := (literal.whole.length : Int) - before - behind
  (scaled? (.ofNat significand) (places + literal.exponent.getD 0)).map fun magnitude =>
    if literal.negative then -magnitude else magnitude

end NumberLiteral

/-- The number that a text writes: an integer where it can be, and a real otherwise. -/
def number? (text : String) : Option Json := do
  let literal ← NumberLiteral.ofText? text.toList
  (literal.integer?.map .integer).or (literal.real?.map .real)

end Json

end Messenger
