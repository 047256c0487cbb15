import Messenger.Proofs.ServerErrors

/-!
# Patterns of errors

Errors of the server are told apart by patterns, whatever number they carry.

1. **Patterns** (`RpcError.nameMatches`): a word stands for itself, for every name that starts with it
   if an asterisk follows, and for every name that ends with it if an asterisk goes before.
2. **Layers** (`CallError.is_eq_true_iff`, `MethodError.is_eq_true_iff`): a pattern asks an error for
   the error of the server behind it, and no other error matches.
3. **Numbers** (`RpcError.ofMessage_numbered`): a number behind an underscore becomes the value, and
   leaves no mark in the name, whatever follows it.

Main statement: `RpcError.numbers_do_not_matter`.
-/

namespace Messenger

namespace RpcError

/-! ## Patterns -/

variable {name pattern : List Char}

/-- In front of an asterisk stands the start of the name. -/
theorem nameMatches_start (start : List Char) :
    nameMatches name (start ++ ['*']) = true ↔ start <+: name := by
  rw [nameMatches, if_pos List.getLast?_concat, List.dropLast_concat]
  exact List.isPrefixOf_iff_prefix

/-- Behind an asterisk stands the end of the name. -/
theorem nameMatches_ending {ending : List Char} (hlast : ending.getLast? ≠ some '*') :
    nameMatches name ('*' :: ending) = true ↔ ending <:+ name := by
  cases ending with
  | nil =>
    -- a lone asterisk stands behind the empty word as well as in front of it
    have hstart : nameMatches name ['*'] = true ↔ [] <+: name := nameMatches_start []
    rw [hstart]
    exact ⟨fun _ => List.nil_suffix, fun _ => List.nil_prefix⟩
  | cons c rest =>
    have hends : ('*' :: c :: rest).getLast? ≠ some '*' := by rwa [List.getLast?_cons_cons]
    rw [nameMatches, if_neg hends, if_pos List.head?_cons, List.tail_cons]
    exact List.isSuffixOf_iff_suffix

/-- Without an asterisk at an end, the pattern is the name. -/
theorem nameMatches_word (hhead : pattern.head? ≠ some '*') (hlast : pattern.getLast? ≠ some '*') :
    nameMatches name pattern = true ↔ name = pattern := by
  rw [nameMatches, if_neg hlast, if_neg hhead]
  exact beq_iff_eq

/-- What the three patterns ask that are made of a word without asterisks. -/
theorem is_word_iff (error : RpcError) {word : String} (hword : '*' ∉ word.toList) :
    (error.is word = true ↔ error.name = word) ∧
      (error.is (word ++ "*") = true ↔ word.toList <+: error.name.toList) ∧
      (error.is ("*" ++ word) = true ↔ word.toList <:+ error.name.toList) := by
  have hhead : word.toList.head? ≠ some '*' := fun hstar => hword (List.mem_of_mem_head? hstar)
  have hlast : word.toList.getLast? ≠ some '*' := fun hstar => hword (List.mem_of_getLast? hstar)
  refine ⟨?_, ?_, ?_⟩
  · rw [RpcError.is, nameMatches_word hhead hlast, String.toList_inj]
  · rw [RpcError.is, String.toList_append]
    exact nameMatches_start word.toList
  · rw [RpcError.is, String.toList_append]
    exact nameMatches_ending hlast

/-- Only the name is asked for. -/
theorem is_eq_of_name_eq {error other : RpcError} (hname : error.name = other.name)
    (pattern : String) : error.is pattern = other.is pattern := by
  rw [RpcError.is, RpcError.is, hname]

end RpcError

/-! ## Layers -/

/-- A failed request matches as the error of the server that failed it. -/
theorem CallError.is_eq_true_iff (error : CallError) (pattern : String) :
    error.is pattern = true ↔ ∃ refusal, error = .rpc refusal ∧ refusal.is pattern = true := by
  cases error with
  | rpc refusal => simp [CallError.is]
  | dropped => simp [CallError.is]
  | io failure => simp [CallError.is]
  | deserialize mistake => simp [CallError.is]

/-- A failed method matches as the error of the server that failed one of its requests. -/
theorem MethodError.is_eq_true_iff (error : MethodError) (pattern : String) :
    error.is pattern = true ↔
      ∃ refusal, error = .invocation (.rpc refusal) ∧ refusal.is pattern = true := by
  cases error with
  | invocation failure =>
    rw [MethodError.is, CallError.is_eq_true_iff]
    simp
  | peerNotFound chat => simp [MethodError.is]
  | upload failure => simp [MethodError.is]
  | invalidArgument reason => simp [MethodError.is]

namespace RpcError

/-! ## Numbers -/

/-- The number in decimal, behind some zeros. -/
def numeral (zeros : Nat) (value : UInt32) : String :=
  .ofList (List.replicate zeros '0' ++ Nat.toDigits 10 value.toNat)

theorem numeral_ne_nil (zeros : Nat) (value : UInt32) : (numeral zeros value).toList ≠ [] := by
  simp [numeral, Nat.toDigits_ne_nil]

theorem isDigit_of_mem_numeral {zeros : Nat} {value : UInt32} {c : Char}
    (hmem : c ∈ (numeral zeros value).toList) : c.isDigit = true := by
  rw [numeral, String.toList_ofList] at hmem
  rcases List.mem_append.1 hmem with hzero | hdigit
  · rw [List.eq_of_mem_replicate hzero]
    rfl
  · exact Text.isDigit_of_mem_toDigits hdigit

/-- Leading zeros do not change the number. -/
theorem ofDigitChars_numeral (zeros : Nat) (value : UInt32) :
    Nat.ofDigitChars 10 (numeral zeros value).toList 0 = value.toNat := by
  rw [numeral, String.toList_ofList, Nat.ofDigitChars_append, Nat.ofDigitChars_replicate_zero,
    Nat.mul_zero, Nat.ofDigitChars_ten_toDigits]

variable {front back : String}

/-- A number behind the first underscore that a digit follows is the first number of the text. -/
theorem firstNumber_of_numeral (hfront : ∀ c ∈ front.toList, c.isDigit = false)
    (hback : ∀ c, back.toList.head? = some c → c.isDigit = false) (zeros : Nat) (value : UInt32) :
    FirstNumber (front ++ "_" ++ numeral zeros value ++ back).toList (front.toList ++ ['_'])
      (numeral zeros value).toList back.toList where
  text_eq := by simp
  before_digit := by
    intro c hmem
    rcases List.mem_append.1 hmem with hmem | hmem
    · exact hfront c hmem
    · rw [List.mem_singleton.1 hmem]
      rfl
  digits_ne := numeral_ne_nil zeros value
  digits_digit := fun _ => isDigit_of_mem_numeral
  after_digit := hback

/-- The number becomes the value, and the name is what stands around it and its underscore. -/
theorem ofMessage_numbered (code : Int32) (hfront : ∀ c ∈ front.toList, c.isDigit = false)
    (hback : ∀ c, back.toList.head? = some c → c.isDigit = false) (zeros : Nat) (value : UInt32) :
    ofMessage code (front ++ "_" ++ numeral zeros value ++ back) =
      ⟨code, front ++ back, some value, none⟩ := by
  have hnumber := firstNumber_of_numeral hfront hback zeros value
  have hdigits := firstDigits_eq hnumber
  have hvalue : firstNumber? (front ++ "_" ++ numeral zeros value ++ back).toList = some value := by
    rw [firstNumber?_of_digits (hdigits.symm ▸ hnumber), hdigits, ofDigitChars_numeral, uint32?,
      if_pos value.toNat_lt]
    simp
  have hname := removeFirst_of_underscore hnumber (by simp)
  rw [ofMessage_of_some code hvalue, hdigits, hname, List.dropLast_concat, ← String.toList_append,
    String.ofList_toList]

/-! ## Main statement -/

/-- The patterns made of a word without asterisks ask for the name, for its start or for its end; and
a request or a method that failed matches exactly if it failed with an error of the server that
does. Two messages of the server that differ only in the number behind an underscore make errors of
one name, each with its own number as the value, and no pattern tells them apart, whether it is
asked of the error itself, of the request that failed or of the method. -/
theorem numbers_do_not_matter (code : Int32) (front back : String) (m n : UInt32)
    (zeros zeros' : Nat) (hfront : ∀ c ∈ front.toList, c.isDigit = false)
    (hback : ∀ c, back.toList.head? = some c → c.isDigit = false) :
    (∀ (error : RpcError) (word : String), '*' ∉ word.toList →
        (error.is word = true ↔ error.name = word) ∧
          (error.is (word ++ "*") = true ↔ word.toList <+: error.name.toList) ∧
          (error.is ("*" ++ word) = true ↔ word.toList <:+ error.name.toList)) ∧
      (∀ (error : CallError) (pattern : String), error.is pattern = true ↔
        ∃ refusal, error = .rpc refusal ∧ refusal.is pattern = true) ∧
      (∀ (error : MethodError) (pattern : String), error.is pattern = true ↔
        ∃ refusal, error = .invocation (.rpc refusal) ∧ refusal.is pattern = true) ∧
      let first := ofMessage code (front ++ "_" ++ numeral zeros m ++ back)
      let second := ofMessage code (front ++ "_" ++ numeral zeros' n ++ back)
      (first.name = front ++ back ∧ first.value = some m) ∧
        (second.name = front ++ back ∧ second.value = some n) ∧
        ∀ pattern : String, first.is pattern = second.is pattern ∧
          (CallError.rpc first).is pattern = (CallError.rpc second).is pattern ∧
          (MethodError.invocation (.rpc first)).is pattern =
            (MethodError.invocation (.rpc second)).is pattern := by
  refine ⟨fun error _ => error.is_word_iff, CallError.is_eq_true_iff,
    MethodError.is_eq_true_iff, ?_⟩
  intro first second
  have hfirst : first = ⟨code, front ++ back, some m, none⟩ :=
    ofMessage_numbered code hfront hback zeros m
  have hsecond : second = ⟨code, front ++ back, some n, none⟩ :=
    ofMessage_numbered code hfront hback zeros' n
  have hname : first.name = second.name := by rw [hfirst, hsecond]
  refine ⟨by simp [hfirst], by simp [hsecond], ?_⟩
  intro pattern
  -- the layers around an error of the server hand the pattern on to it
  have hsame : first.is pattern = second.is pattern := is_eq_of_name_eq hname pattern
  exact ⟨hsame, hsame, hsame⟩

/-- A wait of 31 seconds and one of 7, with the digits of the first once more behind it. -/
theorem waits_match_alike :
    (∀ c ∈ "FLOOD_WAIT".toList, c.isDigit = false) ∧
      (∀ c, "_31".toList.head? = some c → c.isDigit = false) ∧
      (ofMessage 420 "FLOOD_WAIT_31_31").name = "FLOOD_WAIT_31" ∧
      (ofMessage 420 "FLOOD_WAIT_31_31").value = some 31 ∧
      (ofMessage 420 "FLOOD_WAIT_007_31").value = some 7 ∧
      ∀ pattern, (ofMessage 420 "FLOOD_WAIT_31_31").is pattern =
        (ofMessage 420 "FLOOD_WAIT_007_31").is pattern := by
  have hfront : ∀ c ∈ "FLOOD_WAIT".toList, c.isDigit = false := by simp
  have hback : ∀ c, "_31".toList.head? = some c → c.isDigit = false := by
    rintro c ⟨⟩
    rfl
  have hlong : "FLOOD_WAIT" ++ "_" ++ numeral 0 31 ++ "_31" = "FLOOD_WAIT_31_31" := by decide
  have hshort : "FLOOD_WAIT" ++ "_" ++ numeral 2 7 ++ "_31" = "FLOOD_WAIT_007_31" := by decide
  have halike := numbers_do_not_matter 420 "FLOOD_WAIT" "_31" 31 7 0 2 hfront hback
  rw [hlong, hshort] at halike
  obtain ⟨-, -, -, ⟨hname, hvalue⟩, ⟨-, hvalue'⟩, hsame⟩ := halike
  exact ⟨hfront, hback, hname, hvalue, hvalue', fun pattern => (hsame pattern).1⟩

end RpcError

end Messenger
