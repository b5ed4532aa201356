import NamedData.Proofs.Name.Order

/-!
# Names cut in two

An index means a place between two components (`Name.cut`): a negative one is counted from the end, and one
beyond an end means that end. The first components up to an index and those from it on are the two sides of
this place, so together they are the name (`take_split_sub`).
-/

namespace NamedData.Name

/-- The place in a list of `length` that an index means; one beyond an end means that end. -/
def cut (length : Nat) (index : Int) : Nat :=
  if 0 ≤ index then min index.toNat length else length - index.natAbs

/-- The components from an index on start at its place. -/
theorem sub_eq (n : Name) (index : Int) (count : Nat) :
    n.sub index count = ⟨(n.components.drop (cut n.length index)).take count⟩ := by
  refine congrArg (fun rest : List Component => Name.mk (rest.take count)) ?_
  unfold resolve? cut
  split
  · -- beyond the end nothing is left, wherever the place is
    rw [Option.getD_some, length]
    rcases Nat.le_total index.toNat n.components.length with hle | hle
    · rw [Nat.min_eq_left hle]
    · rw [Nat.min_eq_right hle, List.drop_eq_nil_of_le hle, List.drop_length]
  · split
    · rfl
    · next hbefore =>
      rw [Option.getD_none, Nat.sub_eq_zero_of_le (Nat.le_of_not_le hbefore)]

/-- The first components up to an index end at its place. -/
theorem take_eq (n : Name) (index : Int) : n.take index = ⟨n.components.take (cut n.length index)⟩ := by
  have hstart : cut n.length 0 = 0 := by simp [cut]
  rw [take, sub_eq, hstart, List.drop_zero, cut]
  split
  · exact congrArg Name.mk List.take_eq_take_min
  · rfl

/-- A name starts with the components of another if cutting it after as many gives that one. -/
theorem isPrefixOf_iff_take (start n : Name) : start.isPrefixOf n = true ↔ n.take start.length = start := by
  have hcut : n.take start.length = ⟨n.components.take start.components.length⟩ := by
    rw [take_eq, cut, if_pos (Int.natCast_nonneg _), Int.toNat_natCast]
    exact congrArg Name.mk List.take_eq_take_min.symm
  rw [isPrefixOf_iff, List.prefix_iff_eq_take, hcut]
  constructor
  · intro h
    rw [← h]
  · intro h
    exact (congrArg Name.components h).symm

/-- An index cuts a name in two: the first components up to it and those from it on, where `most` is no less
than the number of components. Of the latter a smaller count leaves the first ones. A name starts with
another if cutting it after as many components gives that one. -/
theorem take_split_sub (n : Name) {most : Nat} (hmost : n.length ≤ most) :
    (∀ index : Int, (n.take index).components ++ (n.sub index most).components = n.components
      ∧ ∀ count, (n.sub index count).components
          = (n.sub index most).components.take (min count n.length))
    ∧ ∀ start : Name, start.isPrefixOf n = true ↔ n.take start.length = start := by
  refine ⟨fun index => ?_, fun start => isPrefixOf_iff_take start n⟩
  have hrest : (n.components.drop (cut n.length index)).length ≤ n.length := by
    rw [List.length_drop]
    exact Nat.sub_le _ _
  have hall : n.sub index most = ⟨n.components.drop (cut n.length index)⟩ := by
    rw [sub_eq, List.take_of_length_le (Nat.le_trans hrest hmost)]
  refine ⟨?_, fun count => ?_⟩
  · rw [take_eq, hall]
    exact List.take_append_drop _ _
  · rw [sub_eq, hall]
    rcases Nat.le_total count n.length with hle | hle
    · rw [Nat.min_eq_left hle]
    · rw [Nat.min_eq_right hle]
      exact (List.take_of_length_le (Nat.le_trans hrest hle)).trans (List.take_of_length_le hrest).symm

/-- Three components, cut before the last two, and at an index that lies before the start. -/
theorem take_split_sub_three :
    let n : Name := ⟨[.generic [0x61], .generic [0x62], .generic [0x63]]⟩
    n.length ≤ 3 ∧ n.take (-2) = ⟨[.generic [0x61]]⟩ ∧ n.take (-9) = empty
      ∧ (n.take (-2)).components ++ (n.sub (-2) 3).components = n.components
      ∧ (n.take (-9)).components ++ (n.sub (-9) 3).components = n.components := by
  intro n
  have hlength : n.length ≤ 3 := by decide
  obtain ⟨hsplit, -⟩ := take_split_sub n hlength
  exact ⟨hlength, by decide, by decide, (hsplit (-2)).1, (hsplit (-9)).1⟩

end NamedData.Name
