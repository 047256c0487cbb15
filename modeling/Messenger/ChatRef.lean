import Messenger.Text.Blank
import Messenger.Text.Numeral

/-!
# Chat references

A chat as a person would name it. A text is read in this order (`ChatRef.ofText`), once the white
space around it is gone:

1. `me` and `self`, in capital or small letters, are the account itself;
2. an integer is a marked identifier, unless it starts with a plus sign;
3. digits behind a plus sign are a phone number;
4. anything else is a username, with or without an at sign in front of it.
-/

namespace Messenger

/-- A loose reference to a user, a group or a channel. -/
inductive ChatRef where
  /-- A marked identifier. -/
  | id (id : Int64)
  /-- A username, without the at sign and in small letters. -/
  | username (name : String)
  /-- A phone number, without the plus sign. -/
  | phone (digits : String)
  /-- The account itself. -/
  | me
deriving DecidableEq, Inhabited

namespace ChatRef

/-- The text with its ASCII letters made small. -/
def lowercase (text : List Char) : List Char :=
  text.map Char.toLower

/-- The text names the account itself. -/
def namesSelf (text : List Char) : Bool :=
  lowercase text = ['m', 'e'] ∨ lowercase text = ['s', 'e', 'l', 'f']

/-- The text as a username. -/
def ofName : List Char → ChatRef
  | '@' :: name => .username (.ofList (lowercase name))
  | name => .username (.ofList (lowercase name))

/-- The text as a phone number if it is one, and else as a username. -/
def ofPhoneOrName : List Char → ChatRef
  | '+' :: digits =>
    if (Text.readNat? digits).isSome then .phone (.ofList digits) else ofName ('+' :: digits)
  | text => ofName text

/-- The reference that a text without white space around it makes. -/
def ofTrimmed (text : List Char) : ChatRef :=
  if namesSelf text then .me
  else
    match text.head?, Text.readInt64? text with
    | some '+', _ => ofPhoneOrName text
    | _, some marked => .id marked
    | _, none => ofPhoneOrName text

/-- The reference that a text makes. -/
def ofText (text : String) : ChatRef :=
  ofTrimmed (Text.trim text.toList)

/-- The text of a reference, which makes the same reference again. -/
def text : ChatRef → String
  | .id marked => toString marked.toInt
  | .username name => "@" ++ name
  | .phone digits => "+" ++ digits
  | .me => "me"

end ChatRef

end Messenger
