import NamedData.Wire.Integer

/-!
# The shortest form of a number

Bytes that stand for a number are its shortest form or longer (`length_encode_le`), and as two values of
one length stand for different numbers, a value is what is written for its number if and only if no shorter
bytes stand for that number (`encode_eq_iff`).
-/

namespace NamedData.Wire.Integer

variable {value : Bytes} {n : UInt64}

theorem decode_eq_ok_iff :
    decode value = .ok n ↔ value.length ∈ [1, 2, 4, 8] ∧ Bytes.ofBigEndian value = n.toNat := by
  rw [← decode?_eq_some_iff, decode]
  cases decode? value with
  | none => exact iff_of_false (by rintro ⟨⟩) (by rintro ⟨⟩)
  | some m => rw [Except.ok.injEq, Option.some.injEq]

theorem decode_encode (n : UInt64) : decode (encode n) = .ok n := by
  rw [decode, decode?_encode]

/-- A value stands for a number if it has a length that numbers have. -/
theorem exists_decode_eq_ok_iff : (∃ n, decode value = .ok n) ↔ value.length ∈ [1, 2, 4, 8] := by
  constructor
  · rintro ⟨n, h⟩
    exact (decode_eq_ok_iff.1 h).1
  · intro hlength
    have hread : decode? value = some (UInt64.ofNat (Bytes.ofBigEndian value)) :=
      if_pos (List.contains_iff_mem.2 hlength)
    exact ⟨_, by rw [decode, hread]⟩

/-- Bytes that stand for a number are no shorter than what is written for it. -/
theorem length_encode_le (h : decode value = .ok n) : (encode n).length ≤ value.length := by
  obtain ⟨hlength, hn⟩ := decode_eq_ok_iff.1 h
  have hlt := Bytes.ofBigEndian_lt value
  rw [hn] at hlt
  have hencode : (encode n).length = if n.toNat < UInt8.size then 1
      else if n.toNat < UInt16.size then 2 else if n.toNat < UInt32.size then 4 else 8 := by
    unfold encode
    repeat' split
    all_goals rfl
  rw [hencode]
  simp only [List.mem_cons, List.not_mem_nil, or_false] at hlength
  rcases hlength with hlength | hlength | hlength | hlength <;> rw [hlength] at hlt ⊢
  · have hnarrow : n.toNat < UInt8.size := hlt
    grind
  · have hnarrow : n.toNat < UInt16.size := hlt
    grind
  · have hnarrow : n.toNat < UInt32.size := hlt
    grind
  · grind

/-- Bytes of one length that stand for one number are its digits. -/
theorem eq_of_length_eq {other : Bytes} (h : decode value = .ok n) (hother : decode other = .ok n)
    (hlength : value.length = other.length) : value = other := by
  have hnumber : Bytes.ofBigEndian value = Bytes.ofBigEndian other :=
    (decode_eq_ok_iff.1 h).2.trans (decode_eq_ok_iff.1 hother).2.symm
  rw [← Bytes.bigEndian_ofBigEndian hlength, hnumber, Bytes.bigEndian_ofBigEndian rfl]

/-- No shorter bytes stand for the same number. -/
def IsShortest (value : Bytes) : Prop :=
  ∀ other n, decode value = .ok n → decode other = .ok n → value.length ≤ other.length

/-- What is written for a number is the only value in shortest form that stands for it. -/
theorem encode_eq_iff (h : decode value = .ok n) : encode n = value ↔ IsShortest value := by
  constructor
  · rintro rfl other m hm hother
    cases h.symm.trans hm
    exact length_encode_le hother
  · intro hshortest
    have hencode := decode_encode n
    exact eq_of_length_eq hencode h
      (Nat.le_antisymm (length_encode_le h) (hshortest _ n h hencode))

end NamedData.Wire.Integer
