import Messenger.Error
import Messenger.Proofs.Numerals

/-!
# The number in an error of the server

A message of the server may carry a number. It becomes the value of the error, and what is left of
the message becomes the name.

1. **Numbers** (`FirstNumber`): a text without digits has no number, and any other text falls apart
   around the first one.
2. **Removal** (`RpcError.WithoutFirst`): of the places where a part stands in a text, the first one
   is taken out. An underscore and the digits of the first number stand nowhere in front of that
   number (`RpcError.removeFirst_append`).

Main statement: `first_number_is_taken_out_iff`. A number that does not follow an underscore stays
in the name, and a later number may lose digits instead (`number_is_not_always_taken_out`).
-/

namespace Messenger

/-! ## Numbers -/

/-- The text falls into what stands before its first number, the digits of that number, and the
rest. -/
structure FirstNumber (text before digits after : List Char) : Prop where
  text_eq : text = before ++ (digits ++ after)
  before_digit : ∀ c ∈ before, c.isDigit = false
  digits_ne : digits ≠ []
  digits_digit : ∀ c ∈ digits, c.isDigit = true
  after_digit : ∀ c, after.head? = some c → c.isDigit = false

namespace RpcError

theorem mem_takeWhile {p : Char → Bool} {text : List Char} {c : Char}
    (hmem : c ∈ text.takeWhile p) : p c = true :=
  List.all_eq_true.1 List.all_takeWhile c hmem

/-- A text has no digits, or it falls apart around its first number. -/
theorem firstDigits_cases (text : List Char) :
    (∀ c ∈ text, c.isDigit = false) ∧ firstDigits text = [] ∨
      ∃ before after, FirstNumber text before (firstDigits text) after := by
  have hsplit := List.takeWhile_append_dropWhile (p := fun c : Char => !c.isDigit) (l := text)
  have hbefore : ∀ c ∈ text.takeWhile fun c => !c.isDigit, c.isDigit = false := by
    intro c hmem
    simpa using mem_takeWhile hmem
  rw [firstDigits]
  cases hrest : text.dropWhile fun c => !c.isDigit with
  | nil =>
    rw [hrest, List.append_nil] at hsplit
    rw [hsplit] at hbefore
    exact Or.inl ⟨hbefore, rfl⟩
  | cons c rest =>
    have hdigit : c.isDigit = true := by
      have hhead := List.head?_dropWhile_not (fun c : Char => !c.isDigit) text
      rw [hrest] at hhead
      simpa using hhead
    refine Or.inr ⟨_, (c :: rest).dropWhile (·.isDigit), ?_, hbefore, ?_, ?_, ?_⟩
    · rw [List.takeWhile_append_dropWhile, ← hrest, hsplit]
    · simp [hdigit]
    · exact fun _ => mem_takeWhile
    · intro d hd
      have hhead := List.head?_dropWhile_not (·.isDigit) (c :: rest)
      rwa [hd] at hhead

/-- There is one way for a text to fall apart around its first number. -/
theorem firstDigits_eq {text before digits after : List Char}
    (hnumber : FirstNumber text before digits after) : firstDigits text = digits := by
  have hbefore : ∀ c ∈ before, (!c.isDigit) = true := by simpa using hnumber.before_digit
  have hdigits : (digits ++ after).dropWhile (fun c => !c.isDigit) = digits ++ after := by
    obtain ⟨d, others, hd⟩ := List.exists_cons_of_ne_nil hnumber.digits_ne
    have hdigit : d.isDigit = true := hnumber.digits_digit d (by simp [hd])
    rw [hd, List.cons_append, List.dropWhile_cons_of_neg (by simp [hdigit])]
  have hafter : after.takeWhile (·.isDigit) = [] := by
    cases hrest : after with
    | nil => rfl
    | cons c others =>
      have hc : c.isDigit = false := hnumber.after_digit c (by rw [hrest]; rfl)
      exact List.takeWhile_cons_of_neg (by simp [hc])
  rw [firstDigits, hnumber.text_eq, List.dropWhile_append_of_pos hbefore, hdigits,
    List.takeWhile_append_of_pos hnumber.digits_digit, hafter, List.append_nil]

/-- The digits are read as the number that they write in decimal, if that has 32 bits. -/
theorem firstNumber?_of_digits {text before after : List Char}
    (hnumber : FirstNumber text before (firstDigits text) after) :
    firstNumber? text = uint32? (Nat.ofDigitChars 10 (firstDigits text) 0) := by
  rw [firstNumber?, Text.readNat?_eq_some_iff.2 ⟨hnumber.digits_ne, hnumber.digits_digit, rfl⟩,
    Option.bind_some]

/-! ## Removal -/

/-- The rest is the text without the first place where the part stands in it. -/
def WithoutFirst (part text rest : List Char) : Prop :=
  (¬ part <:+: text ∧ rest = text) ∨
    ∃ front back, text = front ++ (part ++ back) ∧ rest = front ++ back ∧
      ∀ other, other ++ part <+: text → front.length ≤ other.length

/-- Where the part does not stand at the start of a text, its first character stays. -/
theorem removeFirst_cons_of_elsewhere {part : List Char} {c : Char} {rest : List Char}
    (hstarts : ¬ part <+: c :: rest) :
    removeFirst part (c :: rest) = c :: removeFirst part rest := by
  rw [removeFirst, if_neg (by simpa using hstarts)]

theorem removeFirst_of_prefix {part : List Char} (hpart : part ≠ []) (rest : List Char) :
    removeFirst part (part ++ rest) = rest := by
  cases part with
  | nil => exact absurd rfl hpart
  | cons c others => rw [List.cons_append, removeFirst, if_pos (by simp)]; simp

/-- The first place is taken out, if there is one. -/
theorem withoutFirst_removeFirst {part : List Char} (hpart : part ≠ []) (text : List Char) :
    WithoutFirst part text (removeFirst part text) := by
  induction text with
  | nil => exact Or.inl ⟨by simpa using hpart, rfl⟩
  | cons c rest ih =>
    by_cases hstarts : part <+: c :: rest
    · obtain ⟨back, hback⟩ := hstarts
      rw [← hback, removeFirst_of_prefix hpart]
      exact Or.inr ⟨[], back, rfl, rfl, by simp⟩
    · rw [removeFirst_cons_of_elsewhere hstarts]
      rcases ih with ⟨hnone, hrest⟩ | ⟨front, back, hrest, hremoved, hfirst⟩
      · refine Or.inl ⟨?_, by rw [hrest]⟩
        rw [List.infix_cons_iff]
        exact not_or.2 ⟨hstarts, hnone⟩
      · refine Or.inr ⟨c :: front, back, by rw [hrest]; rfl, by rw [hremoved]; rfl, ?_⟩
        intro other hother
        cases other with
        | nil => exact absurd hother hstarts
        | cons d others =>
          have hothers := hfirst others (List.cons_prefix_cons.1 hother).2
          simpa using hothers

theorem WithoutFirst.length_eq {part text rest : List Char} (hrest : WithoutFirst part text rest) :
    rest.length = text.length ∨ rest.length + part.length = text.length := by
  rcases hrest with ⟨-, rfl⟩ | ⟨front, back, rfl, rfl, -⟩
  · exact Or.inl rfl
  · simp only [List.length_append]
    omega

variable {text before digits after : List Char}

/-- An underscore and the digits stand nowhere in a text without digits, unless they start with its
last character. -/
theorem removeFirst_append (hne : digits ≠ []) (hdigits : ∀ c ∈ digits, c.isDigit = true)
    (hbefore : ∀ c ∈ before, c.isDigit = false) {rest : List Char}
    (hlast : before.getLast? = some '_' → ¬ digits <+: rest) :
    removeFirst ('_' :: digits) (before ++ rest) = before ++ removeFirst ('_' :: digits) rest := by
  induction before with
  | nil => rfl
  | cons c others ih =>
    obtain ⟨d, digits', rfl⟩ := List.exists_cons_of_ne_nil hne
    have hd : d.isDigit = true := hdigits d (by simp)
    have hstarts : ¬ '_' :: d :: digits' <+: c :: (others ++ rest) := by
      intro hstarts
      obtain ⟨rfl, hrest⟩ := List.cons_prefix_cons.1 hstarts
      cases others with
      | nil => exact hlast rfl hrest
      | cons e others =>
        obtain ⟨rfl, -⟩ := List.cons_prefix_cons.1 hrest
        simp [hbefore d (by simp)] at hd
    have hothers := ih (fun e hmem => hbefore e (by simp [hmem])) (fun hunderscore => hlast ?_)
    · rw [List.cons_append, removeFirst_cons_of_elsewhere hstarts, hothers, List.cons_append]
    · cases others with
      | nil => cases hunderscore
      | cons e others => rwa [List.getLast?_cons_cons]

/-- Nothing that starts with an underscore stands at a digit. -/
theorem removeFirst_append_of_digits (hdigits : ∀ c ∈ digits, c.isDigit = true)
    (part rest : List Char) :
    removeFirst ('_' :: part) (digits ++ rest) = digits ++ removeFirst ('_' :: part) rest := by
  induction digits with
  | nil => rfl
  | cons c others ih =>
    obtain ⟨hc, hothers⟩ := List.forall_mem_cons.1 hdigits
    have hstarts : ¬ '_' :: part <+: c :: (others ++ rest) := by
      intro hstarts
      obtain ⟨rfl, -⟩ := List.cons_prefix_cons.1 hstarts
      cases hc
    rw [List.cons_append, removeFirst_cons_of_elsewhere hstarts, ih hothers, List.cons_append]

/-- A number behind an underscore is taken out, and the underscore with it. -/
theorem removeFirst_of_underscore (hnumber : FirstNumber text before digits after)
    (hunderscore : before.getLast? = some '_') :
    removeFirst ('_' :: digits) text = before.dropLast ++ after := by
  obtain ⟨front, rfl⟩ := List.getLast?_eq_some_iff.1 hunderscore
  have htext : text = front ++ ('_' :: digits ++ after) := by simpa using hnumber.text_eq
  have hfront : ∀ c ∈ front, c.isDigit = false := fun c hmem =>
    hnumber.before_digit c (List.mem_append_left _ hmem)
  have hnot : ¬ digits <+: '_' :: digits ++ after := by
    intro hstarts
    obtain ⟨d, digits', rfl⟩ := List.exists_cons_of_ne_nil hnumber.digits_ne
    obtain ⟨rfl, -⟩ := List.cons_prefix_cons.1 hstarts
    cases hnumber.digits_digit '_' (by simp)
  rw [htext, removeFirst_append hnumber.digits_ne hnumber.digits_digit hfront fun _ => hnot,
    removeFirst_of_prefix (by simp), List.dropLast_concat]

/-- A number behind anything else stays. -/
theorem removeFirst_of_other (hnumber : FirstNumber text before digits after)
    (hother : before.getLast? ≠ some '_') :
    removeFirst ('_' :: digits) text = before ++ (digits ++ removeFirst ('_' :: digits) after) := by
  rw [hnumber.text_eq, removeFirst_append hnumber.digits_ne hnumber.digits_digit
    hnumber.before_digit (absurd · hother), removeFirst_append_of_digits hnumber.digits_digit]

/-- What stands before a number, without an underscore right in front of it. -/
def withoutUnderscore (before : List Char) : List Char :=
  if before.getLast? = some '_' then before.dropLast else before

/-- The number is taken out exactly if it follows an underscore. -/
theorem removeFirst_eq_iff (hnumber : FirstNumber text before digits after) :
    removeFirst ('_' :: digits) text = withoutUnderscore before ++ after ↔
      before.getLast? = some '_' := by
  constructor
  · intro hremoved
    refine Decidable.byContradiction fun hother => ?_
    -- otherwise the name keeps the number, and is too long
    rw [removeFirst_of_other hnumber hother, withoutUnderscore, if_neg hother,
      List.append_cancel_left_eq] at hremoved
    have hlength := congrArg List.length hremoved
    have hdigits := List.length_pos_iff.2 hnumber.digits_ne
    have hrest := (withoutFirst_removeFirst (List.cons_ne_nil '_' digits) after).length_eq
    simp only [List.length_append, List.length_cons] at hlength hrest
    omega
  · intro hunderscore
    rw [removeFirst_of_underscore hnumber hunderscore, withoutUnderscore, if_pos hunderscore]

/-! ## Messages -/

variable {message : String}

/-- Without a number of 32 bits, the message is the name. -/
theorem ofMessage_of_none (code : Int32) (hnone : firstNumber? message.toList = none) :
    ofMessage code message = ⟨code, message, none, none⟩ := by
  simp only [ofMessage, hnone]

theorem ofMessage_of_some (code : Int32) {value : UInt32}
    (hsome : firstNumber? message.toList = some value) :
    ofMessage code message =
      ⟨code, .ofList (removeFirst ('_' :: firstDigits message.toList) message.toList), some value,
        none⟩ := by
  simp only [ofMessage, hsome]

/-- For every code and every message, the error has the code and no cause.

1. Without digits, the message is the name, and there is no value.
2. If the first number does not have 32 bits, the same holds.
3. Otherwise the first number is the value. The name is the message without the digits of that
   number and without an underscore right in front of them exactly if there is such an underscore.
   If there is none, the number stays in the name, and what is taken out is the first place behind
   the number where an underscore is followed by the same digits, if there is such a place. -/
theorem first_number_is_taken_out_iff (code : Int32) (message : String) :
    let error := ofMessage code message
    let text := message.toList
    error.code = code ∧ error.causedBy = none ∧
      ((∀ c ∈ text, c.isDigit = false) ∧ error.name = message ∧ error.value = none ∨
        ∃ before digits after, FirstNumber text before digits after ∧
          if Nat.ofDigitChars 10 digits 0 < UInt32.size then
            error.value.map UInt32.toNat = some (Nat.ofDigitChars 10 digits 0) ∧
              (error.name.toList = withoutUnderscore before ++ after ↔
                before.getLast? = some '_') ∧
              (before.getLast? ≠ some '_' → ∃ rest, WithoutFirst ('_' :: digits) after rest ∧
                error.name.toList = before ++ (digits ++ rest))
          else error.name = message ∧ error.value = none) := by
  intro error text
  rcases firstDigits_cases text with ⟨hnone, hdigits⟩ | ⟨before, after, hnumber⟩
  · have herror : error = ⟨code, message, none, none⟩ :=
      ofMessage_of_none code (by rw [firstNumber?, hdigits]; rfl)
    rw [herror]
    exact ⟨rfl, rfl, Or.inl ⟨hnone, rfl, rfl⟩⟩
  · have hvalue := firstNumber?_of_digits hnumber
    by_cases hfits : Nat.ofDigitChars 10 (firstDigits text) 0 < UInt32.size
    · rw [uint32?, if_pos hfits] at hvalue
      have herror : error = ⟨code, _, some _, none⟩ := ofMessage_of_some code hvalue
      rw [herror]
      refine ⟨rfl, rfl, Or.inr ⟨before, _, after, hnumber, ?_⟩⟩
      rw [if_pos hfits, String.toList_ofList]
      refine ⟨congrArg some (UInt32.toNat_ofNat_of_lt hfits), removeFirst_eq_iff hnumber, ?_⟩
      intro hother
      exact ⟨_, withoutFirst_removeFirst (by simp) after, removeFirst_of_other hnumber hother⟩
    · rw [uint32?, if_neg hfits] at hvalue
      have herror : error = ⟨code, message, none, none⟩ := ofMessage_of_none code hvalue
      rw [herror]
      refine ⟨rfl, rfl, Or.inr ⟨before, _, after, hnumber, ?_⟩⟩
      rw [if_neg hfits]
      exact ⟨rfl, rfl⟩

/-- A number that does not follow an underscore is not taken out. -/
theorem number_is_not_always_taken_out :
    ¬ ∀ code message before digits after, FirstNumber message.toList before digits after →
      Nat.ofDigitChars 10 digits 0 < UInt32.size →
        (ofMessage code message).name.toList = withoutUnderscore before ++ after := by
  intro halways
  have hnumber : FirstNumber "2FA_CONFIRM_WAIT_60".toList [] ['2'] "FA_CONFIRM_WAIT_60".toList :=
    ⟨rfl, by simp, by simp, by simp, by simp⟩
  have hname := halways 400 _ _ _ _ hnumber (by decide)
  revert hname
  decide

end RpcError

end Messenger
