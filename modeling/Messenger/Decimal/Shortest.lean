/-!
# Shortest decimals

The shortest decimal that reads back as a given binary floating-point number, in exact arithmetic:

1. **Decoding** (`Binary.ofFloat`): a finite number is `mantissa · 2 ^ exponent`.
2. **Test** (`Binary.readsBack`): the reals that round to the number form an interval, whose ends
   belong to it exactly when the mantissa is even.
3. **Search** (`Binary.shortest`): of the decimals with one digit, with two digits and so on, only
   the two neighbours of the number can be in the interval. The first hit is taken, of two hits the
   closer, and of two equally close ones the larger.
-/

namespace Messenger

/-- The decimal `digits · 10 ^ exponent`. -/
structure Decimal where
  digits : Nat
  exponent : Int
deriving DecidableEq, Inhabited

namespace Decimal

/-! ## Decoding -/

/-- The finite binary number `mantissa · 2 ^ exponent`, without its sign. -/
structure Binary where
  mantissa : Nat
  exponent : Int
  /-- The gap to the number below is half as wide as the gap to the number above. -/
  narrowBelow : Bool
deriving DecidableEq

/-- The least mantissa of a number that is not subnormal; the bits of the fraction stand below it. -/
def Binary.hiddenBit : Nat := 0x10000000000000

/-- How many exponents there are. -/
def Binary.exponents : Nat := 0x800

/-- The magnitude of a finite number. -/
def Binary.ofFloat (value : Float) : Binary :=
  let bits := value.toBits.toNat
  let fraction := bits % hiddenBit
  let exponent := bits / hiddenBit % exponents
  if exponent = 0 then ⟨fraction, -1074, false⟩
  else ⟨hiddenBit + fraction, (exponent : Int) - 1075, fraction = 0 ∧ 1 < exponent⟩

/-! ## Test -/

/-- The product `number · base ^ power`, or the number if the power is negative. -/
def scale (number base : Nat) (power : Int) : Nat :=
  number * Nat.pow base power.toNat

/-- Compares `a · 10 ^ i` with `b · 2 ^ j`. -/
def compareScaled (a : Nat) (i : Int) (b : Nat) (j : Int) : Ordering :=
  compare (scale (scale a 10 i) 2 (-j)) (scale (scale b 2 j) 10 (-i))

/-- The decimal is among the reals that round to the number. -/
def Binary.readsBack (number : Binary) (decimal : Decimal) : Bool :=
  let low := if number.narrowBelow then 4 * number.mantissa - 1 else 4 * number.mantissa - 2
  let high := 4 * number.mantissa + 2
  let closed := number.mantissa % 2 == 0
  let fromLow := compareScaled decimal.digits decimal.exponent low (number.exponent - 2)
  let toHigh := compareScaled decimal.digits decimal.exponent high (number.exponent - 2)
  (fromLow == .gt || closed && fromLow == .eq) && (toHigh == .lt || closed && toHigh == .eq)

/-! ## Search -/

/-- The quotient of `number` by `10 ^ place`, as a numerator and a denominator. -/
def Binary.over (number : Binary) (place : Int) : Nat × Nat :=
  (scale (scale number.mantissa 2 number.exponent) 10 (-place),
    scale (scale 1 2 (-number.exponent)) 10 place)

/-- The neighbour of the number among the multiples of `10 ^ place` that reads back, if any does. -/
def Binary.neighbour? (number : Binary) (place : Int) : Option Decimal :=
  let (numerator, denominator) := number.over place
  let below : Decimal := ⟨numerator / denominator, place⟩
  let above : Decimal := ⟨numerator / denominator + 1, place⟩
  match number.readsBack below, number.readsBack above with
  | false, false => none
  | true, false => some below
  | false, true => some above
  | true, true => some (if 2 * (numerator % denominator) < denominator then below else above)

/-- The place of the leading digit: the number is below `10 ^ (place + 1)`, and not below
`10 ^ place` unless it is zero. -/
def Binary.leadingPlace (number : Binary) : Int :=
  let (numerator, denominator) := number.over 0
  if denominator ≤ numerator then ((Nat.toDigits 10 (numerator / denominator)).length : Int) - 1
  else -((Nat.toDigits 10 ((denominator - 1) / numerator)).length : Int)

/-- Takes trailing zeros out of the digits, at most `count` of them. -/
def strip (count : Nat) (decimal : Decimal) : Decimal :=
  match count with
  | 0 => decimal
  | count + 1 =>
    if decimal.digits % 10 = 0 then strip count ⟨decimal.digits / 10, decimal.exponent + 1⟩
    else decimal

/-- The exact value of the number. -/
def Binary.exact (number : Binary) : Decimal :=
  ⟨scale (scale number.mantissa 2 number.exponent) 5 (-number.exponent), min number.exponent 0⟩

/-- The shortest decimal that reads back as the number, which is not zero. Seventeen digits are
always enough; the exact value stands behind the search so that it cannot fail. -/
def Binary.shortest (number : Binary) : Decimal :=
  let place := number.leadingPlace
  let found := (List.range 17).findSome? fun (count : Nat) => number.neighbour? (place - count)
  strip 17 (found.getD number.exact)

/-- The shortest decimal that reads back as the magnitude of a finite number; zero has the digit
zero. -/
def ofFloat (value : Float) : Decimal :=
  let number := Binary.ofFloat value
  if number.mantissa = 0 then ⟨0, 0⟩ else number.shortest

end Decimal

end Messenger
