/-!
# Integers of fixed width

The schema has integers of 32 and of 64 bits. A number that does not fit is refused, never wrapped.
-/

namespace Messenger

/-- The 32-bit integer with the given value, if there is one. -/
def int32? (value : Int) : Option Int32 :=
  if Int32.minValue.toInt ≤ value ∧ value ≤ Int32.maxValue.toInt then some (.ofInt value) else none

/-- The 64-bit integer with the given value, if there is one. -/
def int64? (value : Int) : Option Int64 :=
  if Int64.minValue.toInt ≤ value ∧ value ≤ Int64.maxValue.toInt then some (.ofInt value) else none

/-- The 32-bit count with the given value, if there is one. -/
def uint32? (value : Nat) : Option UInt32 :=
  if value < UInt32.size then some (.ofNat value) else none

/-- The byte with the given value, if there is one. -/
def byte? (value : Int) : Option UInt8 :=
  if 0 ≤ value ∧ value < UInt8.size then some (.ofNat value.toNat) else none

@[simp]
theorem int32?_toInt (value : Int32) : int32? value.toInt = some value := by
  simp only [int32?, Int32.ofInt_toInt]
  exact if_pos ⟨Int32.minValue_le_toInt value, Int32.toInt_le value⟩

@[simp]
theorem int64?_toInt (value : Int64) : int64? value.toInt = some value := by
  simp only [int64?, Int64.ofInt_toInt]
  exact if_pos ⟨Int64.minValue_le_toInt value, Int64.toInt_le value⟩

@[simp]
theorem byte?_toNat (value : UInt8) : byte? (value.toNat : Int) = some value := by
  have := value.toNat_lt
  rw [byte?, if_pos (by simp only [UInt8.size]; omega)]
  simp

end Messenger
