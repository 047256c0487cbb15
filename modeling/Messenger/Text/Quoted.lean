import Messenger.Text.Printable

/-!
# Quoted texts

A text between quotation marks. A mark and a backslash inside it stand behind a backslash, some
controls have a letter, and what cannot be shown is given by its code point.
-/

namespace Messenger.Text

/-- The letter that stands for a control character, or the character itself if it only needs a
backslash. -/
def escapeLetter? : Char → Option Char
  | '\x00' => some '0'
  | '\t' => some 't'
  | '\r' => some 'r'
  | '\n' => some 'n'
  | '"' => some '"'
  | '\\' => some '\\'
  | _ => none

/-- A character as it stands in a quoted text. -/
def escapeChar (c : Char) : List Char :=
  match escapeLetter? c with
  | some letter => ['\\', letter]
  | none =>
    if isPrintable c then [c]
    else ['\\', 'u', '\x7b'] ++ Nat.toDigits 16 c.toNat ++ ['\x7d']

/-- The text between quotation marks. -/
def quoted (text : String) : String :=
  .ofList ('"' :: text.toList.flatMap escapeChar ++ ['"'])

end Messenger.Text
