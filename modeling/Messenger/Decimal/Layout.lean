import Messenger.Decimal.Shortest

/-!
# Laying out decimals

The text of a floating-point number: the digits of its shortest decimal, positionally where the
leading digit stands between the fourth place after the point and the sixteenth before it, and with
an exponent otherwise. A positional number always has a digit after the point.
-/

namespace Messenger

namespace Decimal

/-- The digits with the point among or around them. -/
def positional (decimal : Decimal) : List Char :=
  let digits := Nat.toDigits 10 decimal.digits
  let places := (-decimal.exponent).toNat
  if 0 ≤ decimal.exponent then
    digits ++ List.replicate decimal.exponent.toNat '0' ++ ['.', '0']
  else if places < digits.length then
    digits.take (digits.length - places) ++ '.' :: digits.drop (digits.length - places)
  else
    ['0', '.'] ++ List.replicate (places - digits.length) '0' ++ digits

/-- The leading digit, the others after the point, and the exponent of the leading digit. -/
def scientific (decimal : Decimal) (exponent : Int) : List Char :=
  let mantissa :=
    match Nat.toDigits 10 decimal.digits with
    | first :: second :: rest => first :: '.' :: second :: rest
    | digits => digits
  mantissa ++ 'e' :: (toString exponent).toList

/-- The digits of a decimal, laid out by the place of the leading one. -/
def layout (decimal : Decimal) : List Char :=
  let exponent := decimal.exponent + (Nat.toDigits 10 decimal.digits).length - 1
  if decimal.digits = 0 ∨ (-4 ≤ exponent ∧ exponent < 16) then decimal.positional
  else decimal.scientific exponent

/-- The text of a floating-point number. -/
def textOfFloat (value : Float) : String :=
  if value.isNaN then "NaN"
  else
    let sign := if value.toBits < 0x8000000000000000 then "" else "-"
    let magnitude := if value.isInf then "inf" else .ofList (ofFloat value).layout
    sign ++ magnitude

end Decimal

end Messenger
