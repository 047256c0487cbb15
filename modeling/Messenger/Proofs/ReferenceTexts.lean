import Mathlib
import Messenger.ChatRef
import Messenger.Proofs.Numerals

/-!
# The texts of references

What a reference is printed as makes the same reference again, and how a text is written does not
matter where it should not.

1. **White space** (`Text.trim_pad`): white space around a text is gone once it is trimmed.
2. **Letters** (`ChatRef.ofTrimmed_lowercase`): a text makes the same reference once its ASCII
   letters are made small.
3. **Printed references** (`ChatRef.Printable`): a reference that a text makes has a text that is
   read as it stands (`ChatRef.ofText_text`).

Main statement: `references_read_back`.
-/

namespace Messenger

/-! ## White space -/

namespace Text

/-- In front of a character that stays, all characters stay. -/
theorem trimRight_cons_of_not_blank {c : Char} (hc : isBlank c = false) (rest : List Char) :
    trimRight (c :: rest) = c :: trimRight rest := by
  rw [trimRight]
  cases trimRight rest <;> simp [hc]

theorem trimRight_cons_of_ne_nil (c : Char) {rest : List Char} (hrest : trimRight rest ≠ []) :
    trimRight (c :: rest) = c :: trimRight rest := by
  rw [trimRight]
  cases htrimmed : trimRight rest with
  | nil => exact absurd htrimmed hrest
  | cons d trimmed => rfl

theorem trimRight_blanks {text : List Char} (hblank : ∀ c ∈ text, isBlank c = true) :
    trimRight text = [] := by
  induction text with
  | nil => rfl
  | cons c rest ih =>
    rw [trimRight, ih fun d hmem => hblank d (by simp [hmem])]
    simp [hblank c (by simp)]

/-- White space at the end is gone. -/
theorem trimRight_append_blanks (text : List Char) {after : List Char}
    (hafter : ∀ c ∈ after, isBlank c = true) : trimRight (text ++ after) = trimRight text := by
  induction text with
  | nil => exact trimRight_blanks hafter
  | cons c rest ih => rw [List.cons_append, trimRight, trimRight, ih]

theorem trimRight_trimRight (text : List Char) : trimRight (trimRight text) = trimRight text := by
  induction text with
  | nil => rfl
  | cons c rest ih =>
    by_cases hrest : trimRight rest = []
    · rw [trimRight, hrest]
      cases hc : isBlank c <;> simp [hc, trimRight]
    · rw [trimRight_cons_of_ne_nil c hrest, trimRight_cons_of_ne_nil c (by rwa [ih]), ih]

/-- White space around a text is gone. -/
theorem trim_pad {before after : List Char} (hbefore : ∀ c ∈ before, isBlank c = true)
    (text : List Char) (hafter : ∀ c ∈ after, isBlank c = true) :
    trim (before ++ text ++ after) = trim text := by
  rw [trim, List.append_assoc, List.dropWhile_append_of_pos hbefore, List.dropWhile_append]
  split
  · -- the text is itself white space
    rename_i hempty
    rw [trim, List.isEmpty_iff.1 hempty, List.dropWhile_eq_nil_iff.2 hafter]
  · exact trimRight_append_blanks _ hafter

/-- A text is not trimmed if it starts and ends with other characters than white space. -/
theorem trim_cons {c : Char} (hc : isBlank c = false) {rest : List Char}
    (hrest : trimRight rest = rest) : trim (c :: rest) = c :: rest := by
  rw [trim, List.dropWhile_cons_of_neg (by simp [hc]), trimRight_cons_of_not_blank hc, hrest]

/-- A text without white space is not trimmed. -/
theorem trim_eq_self {text : List Char} (hnone : ∀ c ∈ text, isBlank c = false) :
    trim text = text := by
  have hright : ∀ {rest : List Char}, (∀ c ∈ rest, isBlank c = false) → trimRight rest = rest := by
    intro rest hrest
    induction rest with
    | nil => rfl
    | cons c rest ih =>
      obtain ⟨hc, hothers⟩ := List.forall_mem_cons.1 hrest
      rw [trimRight_cons_of_not_blank hc, ih hothers]
  cases text with
  | nil => rfl
  | cons c rest =>
    obtain ⟨hc, hrest⟩ := List.forall_mem_cons.1 hnone
    exact trim_cons hc (hright hrest)

theorem trimRight_trim (text : List Char) : trimRight (trim text) = trim text :=
  trimRight_trimRight _

end Text

/-! ## Characters -/

theorem toNat_of_isAlpha {c : Char} (hletter : c.isAlpha = true) :
    65 ≤ c.toNat ∧ c.toNat ≤ 122 := by
  simp [Char.isAlpha, Char.isUpper, Char.isLower, UInt32.le_iff_toNat_le] at hletter
  omega

/-- Digits are no letters. -/
theorem isAlpha_of_isDigit {c : Char} (hdigit : c.isDigit = true) : c.isAlpha = false := by
  rw [← Bool.not_eq_true]
  intro hletter
  have hhigh := (Char.isDigit_iff_toNat.1 hdigit).2
  have hlow := (toNat_of_isAlpha hletter).1
  simp at hhigh
  omega

theorem isBlank_of_isAlpha {c : Char} (hletter : c.isAlpha = true) : Text.isBlank c = false := by
  obtain ⟨hlow, hhigh⟩ := toNat_of_isAlpha hletter
  simp [Text.isBlank]
  omega

theorem isBlank_of_isDigit {c : Char} (hdigit : c.isDigit = true) : Text.isBlank c = false := by
  have hrange := Char.isDigit_iff_toNat.1 hdigit
  simp at hrange
  simp [Text.isBlank]
  omega

theorem toLower_of_not_isAlpha {c : Char} (hc : c.isAlpha = false) : c.toLower = c :=
  Char.toLower_eq_of_not_isUpper (by simp_all [Char.isAlpha])

/-- Only a character that is no letter is made into one that is none. -/
theorem toLower_eq_iff {c d : Char} (hd : d.isAlpha = false) : c.toLower = d ↔ c = d := by
  constructor
  · intro hlower
    have hc : c.isAlpha = false := by rw [← Char.isAlpha_toLower_eq_isAlpha, hlower, hd]
    rwa [toLower_of_not_isAlpha hc] at hlower
  · rintro rfl
    exact toLower_of_not_isAlpha hd

/-- What holds of no letter does not depend on which letters are capitals. -/
theorem apply_toLower {p : Char → Bool} (hp : ∀ {c : Char}, c.isAlpha = true → p c = false)
    (c : Char) : p c.toLower = p c := by
  cases hc : c.isAlpha with
  | false => rw [toLower_of_not_isAlpha hc]
  | true =>
    have hlower : c.toLower.isAlpha = true := by rw [Char.isAlpha_toLower_eq_isAlpha, hc]
    rw [hp hc, hp hlower]

theorem isBlank_toLower (c : Char) : Text.isBlank c.toLower = Text.isBlank c :=
  apply_toLower isBlank_of_isAlpha c

theorem isDigit_toLower (c : Char) : c.toLower.isDigit = c.isDigit := by
  refine apply_toLower (fun {c} hletter => ?_) c
  rw [← Bool.not_eq_true]
  intro hdigit
  simp [isAlpha_of_isDigit hdigit] at hletter

/-! ## How texts are read -/

namespace ChatRef

theorem ofName_of_head?_ne {text : List Char} (hat : text.head? ≠ some '@') :
    ofName text = .username (.ofList (lowercase text)) := by
  unfold ofName
  split
  · exact absurd rfl hat
  · rfl

/-- Only letters name the account itself. -/
theorem namesSelf_eq_false {text : List Char} {c : Char} (hmem : c ∈ text)
    (hc : c.isAlpha = false) : namesSelf text = false := by
  rw [← Bool.not_eq_true]
  intro hself
  have hletters : (lowercase text).all Char.isAlpha = true := by
    rw [namesSelf, decide_eq_true_eq] at hself
    rcases hself with hself | hself <;> rw [hself] <;> rfl
  have hletter := List.all_eq_true.1 hletters c.toLower (List.mem_map_of_mem hmem)
  rw [Char.isAlpha_toLower_eq_isAlpha, hc] at hletter
  cases hletter

/-- Behind a plus sign there is a phone number, or else the text is a username. -/
theorem ofTrimmed_plus (digits : List Char) :
    ofTrimmed ('+' :: digits) =
      if (Text.readNat? digits).isSome then .phone (.ofList digits)
      else ofName ('+' :: digits) := by
  rw [ofTrimmed, namesSelf_eq_false (List.mem_cons_self ..) rfl]
  rfl

/-- Without a plus sign, a text names the account itself, or it is an integer or a username. -/
theorem ofTrimmed_of_head?_ne {text : List Char} (hplus : text.head? ≠ some '+') :
    ofTrimmed text =
      if namesSelf text then .me
      else
        match Text.readInt64? text with
        | some marked => .id marked
        | none => ofName text := by
  have hname : ofPhoneOrName text = ofName text := by
    unfold ofPhoneOrName
    split
    · exact absurd rfl hplus
    · rfl
  rw [ofTrimmed, hname]
  generalize Text.readInt64? text = read
  cases text with
  | nil => cases read <;> rfl
  | cons c rest =>
    have hc : c ≠ '+' := by simpa using hplus
    cases read <;> simp [hc]

end ChatRef

/-! ## Letters -/

/-- The texts differ at most in which of their ASCII letters are capitals. -/
def SameLetters (text other : String) : Prop :=
  List.Forall₂ (fun c d => d = c ∨ d = c.toLower ∨ d = c.toUpper) text.toList other.toList

namespace ChatRef

theorem lowercase_lowercase (text : List Char) : lowercase (lowercase text) = lowercase text := by
  simp [lowercase]

theorem lowercase_eq_of_sameLetters {text other : String} (hsame : SameLetters text other) :
    lowercase text.toList = lowercase other.toList := by
  rw [SameLetters] at hsame
  generalize text.toList = cs at hsame
  generalize other.toList = ds at hsame
  induction hsame with
  | nil => rfl
  | cons hletter _ ih =>
    rw [lowercase, lowercase, List.map_cons, List.map_cons]
    rw [lowercase, lowercase] at ih
    rcases hletter with rfl | rfl | rfl <;> simp [ih]

theorem lowercase_digits {digits : List Char} (hdigits : ∀ c ∈ digits, c.isDigit = true) :
    lowercase digits = digits := by
  have hstays : ∀ c ∈ digits, c.toLower = c := fun c hmem =>
    toLower_of_not_isAlpha (isAlpha_of_isDigit (hdigits c hmem))
  exact (List.map_congr_left hstays).trans (List.map_id digits)

theorem lowercase_cons_of_not_alpha {c : Char} (hc : c.isAlpha = false) (rest : List Char) :
    lowercase (c :: rest) = c :: lowercase rest := by
  rw [lowercase, List.map_cons, toLower_of_not_isAlpha hc, lowercase]

theorem head?_lowercase {text : List Char} {c : Char} (hc : c.isAlpha = false) :
    (lowercase text).head? = some c ↔ text.head? = some c := by
  cases text with
  | nil => simp [lowercase]
  | cons d rest => simp [lowercase, toLower_eq_iff hc]

theorem trimRight_lowercase (text : List Char) :
    Text.trimRight (lowercase text) = lowercase (Text.trimRight text) := by
  induction text with
  | nil => rfl
  | cons c rest ih =>
    rw [lowercase] at ih
    rw [lowercase, List.map_cons, Text.trimRight, Text.trimRight, ih, isBlank_toLower]
    cases Text.trimRight rest with
    | nil => cases Text.isBlank c <;> rfl
    | cons d trimmed => rfl

/-- White space is taken away alike before and after letters are made small. -/
theorem trim_lowercase (text : List Char) :
    Text.trim (lowercase text) = lowercase (Text.trim text) := by
  have hleft :
      (lowercase text).dropWhile Text.isBlank = lowercase (text.dropWhile Text.isBlank) := by
    rw [lowercase, List.dropWhile_map]
    simp only [Function.comp_def, isBlank_toLower]
    rfl
  rw [Text.trim, hleft, trimRight_lowercase, Text.trim]

/-- Numerals have no letters. -/
theorem readNat?_lowercase (text : List Char) :
    Text.readNat? (lowercase text) = Text.readNat? text := by
  by_cases hdigits : ∀ c ∈ text, c.isDigit = true
  · rw [lowercase_digits hdigits]
  · obtain ⟨c, hmem, hc⟩ : ∃ c ∈ text, c.isDigit = false := by simpa using hdigits
    rw [Text.readNat?_eq_none_of_mem hmem hc]
    exact Text.readNat?_eq_none_of_mem (List.mem_map_of_mem hmem) (by rw [isDigit_toLower, hc])

theorem readInt64?_lowercase (text : List Char) :
    Text.readInt64? (lowercase text) = Text.readInt64? text := by
  have hread : Text.readInt? (lowercase text) = Text.readInt? text := by
    by_cases hminus : text.head? = some '-'
    · obtain ⟨digits, rfl⟩ := List.head?_eq_some_iff.1 hminus
      rw [lowercase_cons_of_not_alpha rfl, Text.readInt?_minus, Text.readInt?_minus,
        readNat?_lowercase]
    · by_cases hplus : text.head? = some '+'
      · obtain ⟨digits, rfl⟩ := List.head?_eq_some_iff.1 hplus
        rw [lowercase_cons_of_not_alpha rfl, Text.readInt?_plus, Text.readInt?_plus,
          readNat?_lowercase]
      · rw [Text.readInt?_of_unsigned hminus hplus,
          Text.readInt?_of_unsigned (mt (head?_lowercase rfl).1 hminus)
            (mt (head?_lowercase rfl).1 hplus), readNat?_lowercase]
  rw [Text.readInt64?, hread, Text.readInt64?]

theorem ofName_lowercase (text : List Char) : ofName (lowercase text) = ofName text := by
  by_cases hat : text.head? = some '@'
  · obtain ⟨name, rfl⟩ := List.head?_eq_some_iff.1 hat
    rw [lowercase_cons_of_not_alpha rfl, ofName, ofName, lowercase_lowercase]
  · rw [ofName_of_head?_ne hat, ofName_of_head?_ne (mt (head?_lowercase rfl).1 hat),
      lowercase_lowercase]

/-- A text makes the same reference once its ASCII letters are made small. -/
theorem ofTrimmed_lowercase (text : List Char) : ofTrimmed (lowercase text) = ofTrimmed text := by
  have hself : namesSelf (lowercase text) = namesSelf text := by
    rw [namesSelf, lowercase_lowercase, namesSelf]
  by_cases hplus : text.head? = some '+'
  · obtain ⟨digits, rfl⟩ := List.head?_eq_some_iff.1 hplus
    rw [lowercase_cons_of_not_alpha rfl, ofTrimmed_plus, ofTrimmed_plus, readNat?_lowercase]
    split
    · rename_i hdigits
      rw [lowercase_digits (Text.isSome_readNat?_iff.1 hdigits).2]
    · rw [← lowercase_cons_of_not_alpha rfl, ofName_lowercase]
  · rw [ofTrimmed_of_head?_ne hplus, ofTrimmed_of_head?_ne (mt (head?_lowercase rfl).1 hplus),
      hself, readInt64?_lowercase, ofName_lowercase]

/-- A text makes the same reference whichever of its ASCII letters are capitals. -/
theorem ofText_of_sameLetters {text other : String} (hsame : SameLetters text other) :
    ofText text = ofText other := by
  rw [ofText, ofText, ← ofTrimmed_lowercase, ← trim_lowercase, lowercase_eq_of_sameLetters hsame,
    trim_lowercase, ofTrimmed_lowercase]

/-- White space around a text does not matter. -/
theorem ofText_pad {before after : String} (hbefore : ∀ c ∈ before.toList, Text.isBlank c = true)
    (text : String) (hafter : ∀ c ∈ after.toList, Text.isBlank c = true) :
    ofText (before ++ text ++ after) = ofText text := by
  rw [ofText, String.toList_append, String.toList_append, Text.trim_pad hbefore _ hafter, ofText]

/-! ## Printed references -/

/-- The text of the reference is read as it stands: a username has no capital letters and no white
space at its end, and a phone number consists of digits. -/
def Printable : ChatRef → Prop
  | .id _ => True
  | .username name =>
    lowercase name.toList = name.toList ∧ Text.trimRight name.toList = name.toList
  | .phone digits => (Text.readNat? digits.toList).isSome = true
  | .me => True

theorem printable_ofName {text : List Char} (htrimmed : Text.trimRight text = text) :
    (ofName text).Printable := by
  have hname {name : List Char} (hname : Text.trimRight name = name) :
      (username (.ofList (lowercase name))).Printable := by
    simp only [Printable, String.toList_ofList, lowercase_lowercase, true_and]
    rw [trimRight_lowercase, hname]
  by_cases hat : text.head? = some '@'
  · obtain ⟨name, rfl⟩ := List.head?_eq_some_iff.1 hat
    rw [Text.trimRight_cons_of_not_blank rfl] at htrimmed
    exact hname (List.cons.inj htrimmed).2
  · rw [ofName_of_head?_ne hat]
    exact hname htrimmed

theorem printable_ofText (text : String) : (ofText text).Printable := by
  rw [ofText]
  have htrimmed := Text.trimRight_trim text.toList
  generalize Text.trim text.toList = trimmed at htrimmed
  by_cases hplus : trimmed.head? = some '+'
  · obtain ⟨digits, rfl⟩ := List.head?_eq_some_iff.1 hplus
    rw [ofTrimmed_plus]
    split
    · rename_i hdigits
      simpa [Printable] using hdigits
    · exact printable_ofName htrimmed
  · rw [ofTrimmed_of_head?_ne hplus]
    split
    · trivial
    · split
      · trivial
      · exact printable_ofName htrimmed

/-- The numeral of a marked identifier is read as the identifier. -/
theorem ofTrimmed_toString (marked : Int64) :
    ofTrimmed (toString marked.toInt).toList = .id marked := by
  have hplus : (toString marked.toInt).toList.head? ≠ some '+' := by
    intro hhead
    rcases Text.mem_toString (List.mem_of_head? hhead) with hminus | hdigit
    · cases hminus
    · cases hdigit
  obtain ⟨c, hc⟩ := List.exists_mem_of_ne_nil _ (Text.toList_toString_ne_nil marked.toInt)
  have hself : namesSelf (toString marked.toInt).toList = false := by
    refine namesSelf_eq_false hc ?_
    rcases Text.mem_toString hc with rfl | hdigit
    · rfl
    · exact isAlpha_of_isDigit hdigit
  rw [ofTrimmed_of_head?_ne hplus, hself, Text.readInt64?_toString]
  rfl

/-- Behind an at sign, a text is a username. -/
theorem ofTrimmed_at (name : List Char) :
    ofTrimmed ('@' :: name) = .username (.ofList (lowercase name)) := by
  have hread : Text.readInt64? ('@' :: name) = none := by
    rw [Text.readInt64?, Text.readInt?_of_unsigned (by simp) (by simp),
      Text.readNat?_eq_none_of_mem (List.mem_cons_self ..) rfl]
    rfl
  rw [ofTrimmed_of_head?_ne (by simp), namesSelf_eq_false (List.mem_cons_self ..) rfl, hread]
  rfl

/-- A reference whose text is read as it stands is read back from it. -/
theorem ofText_text {reference : ChatRef} (hprintable : reference.Printable) :
    ofText reference.text = reference := by
  cases reference with
  | id marked =>
    have htrim : Text.trim (toString marked.toInt).toList = (toString marked.toInt).toList := by
      refine Text.trim_eq_self fun c hc => ?_
      rcases Text.mem_toString hc with rfl | hdigit
      · rfl
      · exact isBlank_of_isDigit hdigit
    rw [text, ofText, htrim, ofTrimmed_toString]
  | username name =>
    obtain ⟨hsmall, htrimmed⟩ := hprintable
    have htrim : Text.trim ("@" ++ name).toList = '@' :: name.toList := by
      rw [String.toList_append]
      exact Text.trim_cons rfl htrimmed
    rw [text, ofText, htrim, ofTrimmed_at, hsmall, String.ofList_toList]
  | phone digits =>
    have hdigits : (Text.readNat? digits.toList).isSome = true := hprintable
    have htrim : Text.trim ("+" ++ digits).toList = '+' :: digits.toList := by
      rw [String.toList_append]
      refine Text.trim_eq_self fun c hc => ?_
      rcases List.mem_cons.1 hc with rfl | hmem
      · rfl
      · exact isBlank_of_isDigit ((Text.isSome_readNat?_iff.1 hdigits).2 c hmem)
    rw [text, ofText, htrim, ofTrimmed_plus, if_pos hdigits, String.ofList_toList]
  | me => rfl

/-! ## Main statement -/

/-- For all texts and all marked identifiers:

1. The text of the reference that a text makes, makes the same reference again, and so does the text
   of a marked identifier. So two texts are printed alike exactly if they make the same reference,
   and two marked identifiers exactly if they are the same.
2. A text makes the same reference with any white space around it, and whichever of its ASCII
   letters are capitals. -/
theorem references_read_back :
    (∀ text : String, ofText (ofText text).text = ofText text) ∧
      (∀ marked : Int64, ofText (ChatRef.id marked).text = .id marked) ∧
      (∀ text other : String,
        (ofText text).text = (ofText other).text ↔ ofText text = ofText other) ∧
      (∀ marked other : Int64,
        (ChatRef.id marked).text = (ChatRef.id other).text ↔ marked = other) ∧
      (∀ before text after : String, (∀ c ∈ before.toList, Text.isBlank c = true) →
        (∀ c ∈ after.toList, Text.isBlank c = true) →
          ofText (before ++ text ++ after) = ofText text) ∧
      ∀ text other : String, SameLetters text other → ofText text = ofText other := by
  have htexts (text : String) : ofText (ofText text).text = ofText text :=
    ofText_text (printable_ofText text)
  have hids (marked : Int64) : ofText (ChatRef.id marked).text = .id marked :=
    have hprintable : (ChatRef.id marked).Printable := trivial
    ofText_text hprintable
  refine ⟨htexts, hids, ?_, ?_, ?_, ?_⟩
  · intro text other
    refine ⟨fun hprinted => ?_, congrArg ChatRef.text⟩
    rw [← htexts text, hprinted, htexts other]
  · intro marked other
    refine ⟨fun hprinted => ?_, congrArg fun marked => (ChatRef.id marked).text⟩
    have hmade := hids marked
    rw [hprinted, hids other] at hmade
    exact (ChatRef.id.inj hmade).symm
  · intro before text after hbefore hafter
    exact ofText_pad hbefore text hafter
  · intro text other hsame
    exact ofText_of_sameLetters hsame

end ChatRef

end Messenger
