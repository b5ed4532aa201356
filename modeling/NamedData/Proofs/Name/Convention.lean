import NamedData.Name.Convention
import NamedData.Proofs.Name.Uri
import NamedData.Proofs.Wire.Integer

/-!
# Numbers in name components

A component is recognised by its marker and the length of what follows, and read by its marker and the
number that follows; both ways agree on every value (`has_iff`). The markers differ in their bytes, so a
component has one of them at most.
-/

namespace NamedData

theorem Marker.byte_injective : Function.Injective byte := by
  intro marker other h
  cases marker <;> cases other <;> first | rfl | cases h

namespace Component

variable {value : Bytes} {marker : Marker} {n : UInt64}

/-- A number is behind the marker if the value is the marker and what stands for the number. -/
theorem number_eq_ok_iff : (generic value).number marker = .ok n ↔
    ∃ digits, value = marker.byte :: digits ∧ Wire.Integer.decode digits = .ok n := by
  cases value with
  | nil => exact iff_of_false (by rintro ⟨⟩) (by rintro ⟨_, ⟨⟩, -⟩)
  | cons first digits =>
    simp only [number, generic, List.cons.injEq]
    split
    · next hfirst => simp [hfirst]
    · next hfirst => exact iff_of_false (by rintro ⟨⟩) (by rintro ⟨_, ⟨rfl, -⟩, -⟩; exact hfirst rfl)

/-- A component has a marker if its value is the marker and as many bytes as numbers have. -/
theorem has_iff : (generic value).has marker = true ↔
    ∃ digits : Bytes, value = marker.byte :: digits ∧ digits.length ∈ [1, 2, 4, 8] := by
  cases value with
  | nil => exact iff_of_false (by rintro ⟨⟩) (by rintro ⟨_, ⟨⟩, -⟩)
  | cons first digits =>
    have hhas : (generic (first :: digits)).has marker = true ↔
        first = marker.byte ∧ digits.length ∈ [1, 2, 4, 8] := by
      simp [has, generic]
    rw [hhas]
    exact ⟨fun ⟨hfirst, hlength⟩ => ⟨digits, by rw [hfirst], hlength⟩,
      fun ⟨_, hvalue, hlength⟩ => by cases hvalue; exact ⟨rfl, hlength⟩⟩

theorem has_iff_exists_number :
    (generic value).has marker = true ↔ ∃ n, (generic value).number marker = .ok n := by
  simp only [has_iff, number_eq_ok_iff, ← Wire.Integer.exists_decode_eq_ok_iff]
  exact ⟨fun ⟨digits, hvalue, n, hn⟩ => ⟨n, digits, hvalue, hn⟩,
    fun ⟨n, digits, hvalue, hn⟩ => ⟨digits, hvalue, n, hn⟩⟩

/-- A component has one marker at most. -/
theorem marker_unique {other : Marker} (h : (generic value).has marker = true)
    (hother : (generic value).has other = true) : marker = other := by
  obtain ⟨digits, hvalue, -⟩ := has_iff.1 h
  obtain ⟨digits', hvalue', -⟩ := has_iff.1 hother
  rw [hvalue] at hvalue'
  exact Marker.byte_injective (List.cons.inj hvalue').1

theorem number_ofMarker (marker : Marker) (n : UInt64) : (ofMarker marker n).number marker = .ok n :=
  number_eq_ok_iff.2 ⟨_, rfl, Wire.Integer.decode_encode n⟩

/-- A component is what is made of its number if the number has the shortest form. -/
theorem ofMarker_eq_iff (h : (generic value).number marker = .ok n) :
    ofMarker marker n = generic value ↔ Wire.Integer.IsShortest value.tail := by
  obtain ⟨digits, rfl, hdigits⟩ := number_eq_ok_iff.1 h
  rw [List.tail_cons, ← Wire.Integer.encode_eq_iff hdigits]
  simp [ofMarker, ofMarkedNumber, generic]

theorem ofUri_toUri_generic (value : Bytes) : ofUri (generic value).toUri = .ok (generic value) := by
  have hsegment : ofSegment (generic value).segment = .ok (some (generic value)) :=
    ofSegment_segment fun htype => by rcases htype with h | h <;> cases h
  rw [ofUri, toUri, String.toList_ofList, hsegment]
  rfl

/-- A component that is made of a marker and a number has this marker and no other, and its number is read
back. Any generic component has a marker exactly if a number is read behind it, has one marker at
most, and is what is made of the number exactly if that stands there in its shortest form. All of them
are read back from their texts. -/
theorem has_iff_number :
    (∀ marker n, (∀ other, (ofMarker marker n).has other = true ↔ other = marker)
      ∧ (ofMarker marker n).number marker = .ok n)
    ∧ ∀ value, (∀ marker, (generic value).has marker = true ↔ ∃ n, (generic value).number marker = .ok n)
      ∧ (∀ marker other, (generic value).has marker = true → (generic value).has other = true →
          marker = other)
      ∧ (∀ marker n, (generic value).number marker = .ok n →
          (ofMarker marker n = generic value ↔ Wire.Integer.IsShortest value.tail))
      ∧ ofUri (generic value).toUri = .ok (generic value) := by
  refine ⟨fun marker n => ⟨fun other => ?_, number_ofMarker marker n⟩, fun value =>
    ⟨fun marker => has_iff_exists_number, fun marker other => marker_unique, fun marker n => ofMarker_eq_iff,
      ofUri_toUri_generic value⟩⟩
  have hhas : (ofMarker marker n).has marker = true := has_iff_exists_number.2 ⟨n, number_ofMarker marker n⟩
  constructor
  · intro hother
    exact marker_unique hother hhas
  · rintro rfl
    exact hhas

/-- A segment offset with a byte more than it needs. -/
theorem has_iff_number_wide :
    (generic [0xFB, 0x00, 0x05]).number .segmentOffset = .ok 5
      ∧ (generic [0xFB, 0x00, 0x05]).has .segmentOffset = true
      ∧ ¬ Wire.Integer.IsShortest [0x00, 0x05] := by
  obtain ⟨-, hgeneric⟩ := has_iff_number
  obtain ⟨hhas, -, hshortest, -⟩ := hgeneric [0xFB, 0x00, 0x05]
  have hnumber : (generic [0xFB, 0x00, 0x05]).number .segmentOffset = .ok 5 := rfl
  refine ⟨hnumber, (hhas _).2 ⟨5, hnumber⟩, fun h => ?_⟩
  have hmade := (hshortest _ _ hnumber).2 h
  exact absurd hmade (by decide)

end Component

end NamedData
