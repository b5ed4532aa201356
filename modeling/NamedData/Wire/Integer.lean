import NamedData.Wire.Error

/-!
# Whole numbers as values

A 64-bit number is the value of an element in one, two, four or eight bytes. `encode` takes the
shortest of these lengths and `decode?` takes them all; `decode` names the length of any other
value.
-/

namespace NamedData.Wire.Integer

/-- The shortest of the four forms of a number. -/
def encode (n : UInt64) : Bytes :=
  if n.toNat < UInt8.size then Bytes.bigEndian 1 n.toNat
  else if n.toNat < UInt16.size then Bytes.bigEndian 2 n.toNat
  else if n.toNat < UInt32.size then Bytes.bigEndian 4 n.toNat
  else Bytes.bigEndian 8 n.toNat

/-- The number that a value of one, two, four or eight bytes stands for. -/
def decode? (value : Bytes) : Option UInt64 :=
  if [1, 2, 4, 8].contains value.length then some (UInt64.ofNat (Bytes.ofBigEndian value))
  else none

/-- The number that a value stands for, or the length that no number has. -/
def decode (value : Bytes) : Except DecodingError UInt64 :=
  match decode? value with
  | some n => .ok n
  | none => .error (.invalidIntegerLength value.length)

/-- A number is read back from its shortest form. -/
theorem decode?_encode (n : UInt64) : decode? (encode n) = some n := by
  have hn := n.toNat_lt
  unfold encode decode?
  split
  · rw [Bytes.length_bigEndian, Bytes.ofBigEndian_bigEndian (by omega)]
    simp
  split
  · rw [Bytes.length_bigEndian, Bytes.ofBigEndian_bigEndian (by omega)]
    simp
  split
  · rw [Bytes.length_bigEndian, Bytes.ofBigEndian_bigEndian (by omega)]
    simp
  · rw [Bytes.length_bigEndian, Bytes.ofBigEndian_bigEndian (by omega)]
    simp

/-- A value of one of the four lengths is read as the number that its bytes are. -/
theorem decode?_eq_some_iff {value : Bytes} {n : UInt64} :
    decode? value = some n ↔ value.length ∈ [1, 2, 4, 8] ∧ Bytes.ofBigEndian value = n.toNat := by
  unfold decode?
  split
  · next h =>
    have hmem := List.contains_iff_mem.1 h
    have hwidth : value.length ≤ 8 := by
      simp only [List.mem_cons, List.not_mem_nil, or_false] at hmem
      omega
    have hlt : Bytes.ofBigEndian value < UInt64.size :=
      Nat.lt_of_lt_of_le (Bytes.ofBigEndian_lt value) (Nat.pow_le_pow_right (by decide) hwidth)
    rw [Option.some.injEq, ← UInt64.toNat_inj, UInt64.toNat_ofNat_of_lt' hlt]
    exact (and_iff_right hmem).symm
  · next h => exact ⟨nofun, fun ⟨hmem, _⟩ => absurd (List.contains_iff_mem.2 hmem) h⟩

end NamedData.Wire.Integer
