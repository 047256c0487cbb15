/-!
# White space

White space as Unicode has it, and texts without the white space around them.
-/

namespace Messenger.Text

/-- The character is white space. -/
def isBlank (c : Char) : Bool :=
  let point := c.toNat
  (0x9 ≤ point ∧ point ≤ 0xD) || point == 0x20 || point == 0x85 || point == 0xA0 ||
    point == 0x1680 || (0x2000 ≤ point ∧ point ≤ 0x200A) || point == 0x2028 || point == 0x2029 ||
    point == 0x202F || point == 0x205F || point == 0x3000

/-- The text without white space at its end. -/
def trimRight : List Char → List Char
  | [] => []
  | c :: rest =>
    match trimRight rest with
    | [] => if isBlank c then [] else [c]
    | trimmed => c :: trimmed

/-- The text without the white space around it. -/
def trim (text : List Char) : List Char :=
  trimRight (text.dropWhile isBlank)

end Messenger.Text
