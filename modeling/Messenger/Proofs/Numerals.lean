import Messenger.Text.Numeral

/-!
# Numerals that read back

1. **Naturals** (`Text.readNat?_eq_some_iff`): a text is read as a natural number exactly if it
   consists of digits, and the number is the one that these write in decimal.
2. **Integers** (`Text.readInt64?_toString`): every 64-bit integer is read back from its numeral,
   which consists of digits, behind a minus sign if it is negative (`Text.toList_toString`).
-/

namespace Messenger.Text

/-! ## Naturals -/

/-- The digits write the number in decimal. -/
theorem valueFrom_eq_ofDigitChars (start : Nat) (digits : List Char) :
    valueFrom start digits = Nat.ofDigitChars 10 digits start := by
  rw [Nat.ofDigitChars_eq_foldl, valueFrom]
  simp only [digitValue, Nat.mul_comm]

theorem readNat?_eq_some_iff {text : List Char} {value : Nat} :
    readNat? text = some value ↔
      text ≠ [] ∧ (∀ c ∈ text, c.isDigit = true) ∧ Nat.ofDigitChars 10 text 0 = value := by
  rw [readNat?, valueFrom_eq_ofDigitChars]
  split
  · rename_i hdigits
    simpa [hdigits.1] using fun _ => List.all_eq_true.1 hdigits.2
  · rename_i hother
    simp only [reduceCtorEq, false_iff]
    rintro ⟨hne, hdigits, -⟩
    exact hother ⟨hne, List.all_eq_true.2 hdigits⟩

theorem isSome_readNat?_iff {text : List Char} :
    (readNat? text).isSome = true ↔ text ≠ [] ∧ ∀ c ∈ text, c.isDigit = true := by
  simp [Option.isSome_iff_exists, readNat?_eq_some_iff]

/-- A text with another character in it is no natural number. -/
theorem readNat?_eq_none_of_mem {text : List Char} {c : Char} (hmem : c ∈ text)
    (hc : c.isDigit = false) : readNat? text = none := by
  cases hread : readNat? text with
  | none => rfl
  | some value =>
    obtain ⟨-, hdigits, -⟩ := readNat?_eq_some_iff.1 hread
    exact absurd (hdigits c hmem) (by simp [hc])

theorem isDigit_of_mem_toDigits {value : Nat} {c : Char} (hmem : c ∈ Nat.toDigits 10 value) :
    c.isDigit = true :=
  Nat.isDigit_of_mem_toDigits (by decide) (by decide) hmem

/-- Every natural number is read back from its numeral. -/
theorem readNat?_toDigits (value : Nat) : readNat? (Nat.toDigits 10 value) = some value :=
  readNat?_eq_some_iff.2 ⟨Nat.toDigits_ne_nil, fun _ => isDigit_of_mem_toDigits,
    Nat.ofDigitChars_ten_toDigits⟩

/-! ## Integers -/

theorem readInt?_minus (digits : List Char) :
    readInt? ('-' :: digits) = (readNat? digits).map fun value : Nat => -(value : Int) := by
  rw [readInt?]
  cases readNat? digits <;> rfl

theorem readInt?_plus (digits : List Char) :
    readInt? ('+' :: digits) = (readNat? digits).map Int.ofNat := by
  rw [readInt?]
  cases readNat? digits <;> rfl

/-- Without a sign, the text is read as a natural number. -/
theorem readInt?_of_unsigned {text : List Char} (hminus : text.head? ≠ some '-')
    (hplus : text.head? ≠ some '+') : readInt? text = (readNat? text).map Int.ofNat := by
  unfold readInt?
  split
  · exact absurd rfl hminus
  · exact absurd rfl hplus
  · cases readNat? text <;> rfl

/-- The numeral of an integer consists of digits, behind a minus sign if the integer is negative. -/
theorem toList_toString (value : Int) :
    (toString value).toList =
      if value < 0 then '-' :: Nat.toDigits 10 value.natAbs else Nat.toDigits 10 value.natAbs := by
  cases value with
  | ofNat n => simp [Int.toString_eq_repr, Int.repr, Nat.repr_eq_ofList_toDigits]
  | negSucc n => simp [Int.toString_eq_repr, Int.repr, Nat.repr_eq_ofList_toDigits]

theorem toList_toString_ne_nil (value : Int) : (toString value).toList ≠ [] := by
  rw [toList_toString]
  split
  · simp
  · exact Nat.toDigits_ne_nil

/-- A numeral has no other characters than digits and the minus sign. -/
theorem mem_toString {value : Int} {c : Char} (hmem : c ∈ (toString value).toList) :
    c = '-' ∨ c.isDigit = true := by
  rw [toList_toString] at hmem
  split at hmem
  · rcases List.mem_cons.1 hmem with hminus | hdigit
    · exact Or.inl hminus
    · exact Or.inr (isDigit_of_mem_toDigits hdigit)
  · exact Or.inr (isDigit_of_mem_toDigits hmem)

theorem head?_toDigits_ne {value : Nat} {c : Char} (hc : c.isDigit = false) :
    (Nat.toDigits 10 value).head? ≠ some c := by
  intro hhead
  have hdigit := isDigit_of_mem_toDigits (List.mem_of_head? hhead)
  simp [hc] at hdigit

/-- Every integer is read back from its numeral. -/
theorem readInt?_toString (value : Int) : readInt? (toString value).toList = some value := by
  rw [toList_toString]
  split
  · rename_i hneg
    rw [readInt?_minus, readNat?_toDigits]
    exact congrArg some (show -(value.natAbs : Int) = value by omega)
  · rename_i hnonneg
    rw [readInt?_of_unsigned (head?_toDigits_ne rfl) (head?_toDigits_ne rfl), readNat?_toDigits]
    exact congrArg some (show (value.natAbs : Int) = value by omega)

/-- Every 64-bit integer is read back from its numeral. -/
theorem readInt64?_toString (value : Int64) :
    readInt64? (toString value.toInt).toList = some value := by
  rw [readInt64?, readInt?_toString, Option.bind_some, int64?_toInt]

end Messenger.Text
