import NamedData.Proofs.Wire.Reads
import NamedData.Wire.KeyLocator

/-!
# Names and key locators are read back

What a name, or a key locator that has a form on the wire, is written as is read as its normal form:
types of components that have a name carry that name, and the name of a key carries no type.
-/

namespace NamedData.Wire.Reader.Reads

variable {offset : Nat} {after : Bytes}

/-! ## Names -/

protected theorem component (c : Component) :
    Reads component offset (componentElement c) after c.normalize :=
  .bind_right (.any (headerForm_header c.type.code _)) (.pure c.normalize)

protected theorem componentAt (c : Component) :
    Reads componentAt offset (componentElement c) after (offset, c.normalize) :=
  .bind_left .offset_self (.bind_right (.component c) (.pure (offset, c.normalize)))

theorem element_ne_nil (type : UInt64) (value : Bytes) : element type value ≠ [] :=
  (startsWith_element type value).ne_nil

/-- A name is read with the offsets of its value and of its last component. -/
protected theorem nameRange (n : Name) :
    Reads nameRange offset (nameElement n) after
      (n.normalize,
        offset + (Wire.header ElementType.name (componentElements n.components).length).length,
        offset + (Wire.header ElementType.name (componentElements n.components).length).length
          + (componentElements n.components.dropLast).length) := by
  refine .nested (headerForm_header _ _) (.bind_left .offset_self (.bind_right
    (.many (fun c _ => element_ne_nil _ _) fun c _ _ _ => .componentAt c) ?_))
  generalize offset + (Wire.header ElementType.name (componentElements n.components).length).length
    = start
  have hlast : start + (componentElements n.components.dropLast).length = _ :=
    (placed_last Component.normalize componentElement start n.components).symm
  rw [hlast, Name.normalize, ← placed_snd Component.normalize componentElement start n.components]
  exact .pure _

/-! ## Key locators -/

protected theorem name (n : Name) : Reads name offset (nameElement n) after n.normalize :=
  .map Prod.fst (.nameRange n)

/-- A locator fills the element that it is the value of. -/
protected theorem keyLocatorValue {k : KeyLocator} {value : Bytes}
    (h : Wire.keyLocatorValue k = .ok value) :
    Reads keyLocatorValue offset value [] k.normalize := by
  cases k with
  | absent =>
    cases h
    exact .bind_left (optional_none .nil (List.not_mem_nil))
      (.bind_left (optional_none .nil (List.not_mem_nil)) (.pure _))
  | key | certificate => cases h
  | digest bytes =>
    cases h
    refine .bind_left
      (optional_none (.append (.ofElement ElementType.keyLocatorDigest bytes) .nil) (by decide)) ?_
    exact .bind_right (optional_some (.blob (headerForm_header _ _)) (startsWith_element _ _))
      (.pure _)
  | name n type =>
    cases h
    exact .bind_right (optional_some (.name n) (startsWith_element _ _)) (.pure _)

/-- An absent locator is left out. -/
protected theorem keyLocatorElement? {type : UInt64} {k : KeyLocator} {written : Bytes}
    {types : List UInt64} (h : keyLocatorElement? type k = .ok written) (hafter : StartsIn types after)
    (hnot : type ∉ types) :
    Reads (optionalNested type keyLocatorValue) offset written after
      (if k.isAbsent then none else some k.normalize) := by
  rw [Wire.keyLocatorElement?] at h
  by_cases habsent : k.isAbsent = true
  · rw [if_pos habsent] at h ⊢
    cases h
    exact optional_none hafter hnot
  · rw [if_neg habsent] at h ⊢
    cases hvalue : Wire.keyLocatorValue k with
    | error e =>
      rw [hvalue] at h
      cases h
    | ok value =>
      rw [hvalue] at h
      cases h
      exact optional_some (.nested (headerForm_header _ _) (.keyLocatorValue hvalue))
        (startsWith_element _ _)

end NamedData.Wire.Reader.Reads

namespace NamedData.Wire

/-- What is read for a locator that may have been left out. -/
theorem getD_normalize (k : KeyLocator) :
    (if k.isAbsent then none else some k.normalize).getD .absent = k.normalize := by
  cases k <;> rfl

theorem StartsIn.keyLocatorElement? {type : UInt64} {k : KeyLocator} {written : Bytes}
    (h : keyLocatorElement? type k = .ok written) : StartsIn [type] written := by
  unfold Wire.keyLocatorElement? at h
  split at h
  · cases h
    exact .inl rfl
  · cases hvalue : Wire.keyLocatorValue k with
    | error e =>
      rw [hvalue] at h
      cases h
    | ok value =>
      rw [hvalue] at h
      cases h
      exact ofElement type value

/-- A locator cannot be written if and only if it holds the key or the certificate. -/
theorem keyLocatorElement?_error_iff (type : UInt64) (k : KeyLocator) :
    (∃ e, keyLocatorElement? type k = .error e)
      ↔ (∃ bytes, k = .key bytes) ∨ ∃ bytes, k = .certificate bytes := by
  cases k with
  | absent | digest | name =>
    constructor
    · rintro ⟨e, he⟩
      cases he
    · rintro (⟨bytes, h⟩ | ⟨bytes, h⟩) <;> cases h
  | key bytes => exact ⟨fun _ => .inl ⟨bytes, rfl⟩, fun _ => ⟨_, rfl⟩⟩
  | certificate bytes => exact ⟨fun _ => .inr ⟨bytes, rfl⟩, fun _ => ⟨_, rfl⟩⟩

end NamedData.Wire
