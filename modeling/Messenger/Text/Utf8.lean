/-!
# Lossy decoding

The text of a sequence of bytes that should be UTF-8. Each maximal part that is not a character
becomes one replacement character:

1. a byte that cannot start a character is such a part by itself;
2. otherwise the part is the start byte with as many continuation bytes as fit it, when the next
   byte does not (`Lead.second` narrows the first continuation, so that neither overlong forms nor
   surrogates nor numbers beyond the last code point arise).
-/

namespace Messenger.Text

/-- What the first byte of a character of several bytes says about it. -/
structure Lead where
  /-- The bits of the code point that the byte holds. -/
  bits : Nat
  /-- The least second byte. -/
  low : Nat
  /-- The greatest second byte. -/
  high : Nat
  /-- How many bytes come after the second. -/
  more : Nat

/-- What a byte says that starts a character of several bytes. -/
def Lead.ofByte? (byte : Nat) : Option Lead :=
  if 0xC2 ≤ byte ∧ byte ≤ 0xDF then some ⟨byte - 0xC0, 0x80, 0xBF, 0⟩
  else if byte = 0xE0 then some ⟨0, 0xA0, 0xBF, 1⟩
  else if byte = 0xED then some ⟨0xD, 0x80, 0x9F, 1⟩
  else if 0xE1 ≤ byte ∧ byte ≤ 0xEF then some ⟨byte - 0xE0, 0x80, 0xBF, 1⟩
  else if byte = 0xF0 then some ⟨0, 0x90, 0xBF, 2⟩
  else if 0xF1 ≤ byte ∧ byte ≤ 0xF3 then some ⟨byte - 0xF0, 0x80, 0xBF, 2⟩
  else if byte = 0xF4 then some ⟨4, 0x80, 0x8F, 2⟩
  else none

/-- How far the decoding of a character has come. -/
inductive Pending where
  /-- Between characters. -/
  | none
  /-- The bits so far, the range of the next byte, and how many bytes come after it. -/
  | wants (bits low high more : Nat)

/-- What stands for a part that is no character. -/
def replacement : Char := '\uFFFD'

/-- Starts a character with the byte: what it yields at once, and what is pending then. -/
def startChar (byte : Nat) : List Char × Pending :=
  if byte < 0x80 then ([Char.ofNat byte], .none)
  else
    match Lead.ofByte? byte with
    | some lead => ([], .wants lead.bits lead.low lead.high lead.more)
    | .none => ([replacement], .none)

/-- The characters of the bytes, given what is pending. -/
def decodeFrom : Pending → List UInt8 → List Char
  | .none, [] => []
  | .wants _ _ _ _, [] => [replacement]
  | .none, byte :: rest =>
    let (done, pending) := startChar byte.toNat
    done ++ decodeFrom pending rest
  | .wants bits low high more, byte :: rest =>
    if low ≤ byte.toNat ∧ byte.toNat ≤ high then
      let bits := bits * 0x40 + byte.toNat % 0x40
      match more with
      | 0 => Char.ofNat bits :: decodeFrom .none rest
      | more + 1 => decodeFrom (.wants bits 0x80 0xBF more) rest
    else
      let (done, pending) := startChar byte.toNat
      replacement :: done ++ decodeFrom pending rest

/-- The text of the bytes, with a replacement character for each maximal part that is none. -/
def decodeUtf8 (bytes : List UInt8) : String :=
  .ofList (decodeFrom .none bytes)

end Messenger.Text
