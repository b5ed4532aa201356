import NamedData.Proofs.Name.Uri
import NamedData.Proofs.Wire.Normal

/-!
# Names that were read, read again from their text

A reader gives every type that has a name that name, so what it accepts is in normal form. It does not ask
for the length of a digest, unless that stands behind its word: a segment with the type's code, or an element
of that type, may hold any number of bytes. A name with such a component is shown with the word, and then
refused (`ofUri_toUri_accepted_iff`).
-/

namespace NamedData

/-! ## Names in normal form -/

theorem ComponentType.normalize_ofCode (code : UInt64) : (ofCode code).normalize = ofCode code := by
  rw [normalize, code_ofCode]

namespace Component

variable {c : Component} {text : List Char}

theorem type_of_ofHexDigest {type : ComponentType} (h : ofHexDigest type text = .ok c) : c.type = type := by
  unfold ofHexDigest at h
  split at h
  · unfold ofDigest at h
    split at h
    · cases h
      rfl
    · cases h
  · cases h

theorem normalize_of_ofHexDigest {type : ComponentType} (htype : type.normalize = type)
    (h : some <$> ofHexDigest type text = .ok (some c)) : c.normalize = c := by
  cases hread : ofHexDigest type text with
  | error e =>
    rw [hread] at h
    cases h
  | ok digest =>
    rw [hread] at h
    cases h
    rw [normalize, type_of_ofHexDigest hread, htype, ← type_of_ofHexDigest hread]

/-- A code that has a name is read as that name. -/
theorem normalize_of_splitType {type : ComponentType} {escaped : List Char}
    (h : splitType text = .ok (type, escaped)) : type.normalize = type := by
  unfold splitType at h
  split at h
  · split at h
    · split at h
      · cases h
        exact ComponentType.normalize_ofCode _
      · cases h
    · cases h
      rfl
  · cases h
    rfl

theorem normalize_of_ofSegment (h : ofSegment text = .ok (some c)) : c.normalize = c := by
  unfold ofSegment at h
  split at h
  · exact normalize_of_ofHexDigest rfl h
  · split at h
    · exact normalize_of_ofHexDigest rfl h
    · cases htype : splitType text with
      | error e =>
        rw [htype] at h
        cases h
      | ok found =>
        obtain ⟨type, escaped⟩ := found
        simp only [htype, bind, Except.bind] at h
        split at h
        · cases h
        · cases h
        · cases h
          rw [normalize, normalize_of_splitType htype]

end Component

namespace Name

theorem normalize_of_ofSegments {texts : List (List Char)} {components : List Component}
    (h : ofSegments texts = .ok components) : components.map Component.normalize = components := by
  induction texts generalizing components with
  | nil =>
    cases h
    rfl
  | cons text texts ih =>
    simp only [ofSegments, bind, Except.bind] at h
    split at h
    · cases h
    · next c hfirst =>
      cases c with
      | none => exact ih h
      | some c =>
        simp only at h
        split at h
        · cases h
        · next others hothers =>
          cases h
          rw [List.map_cons, Component.normalize_of_ofSegment hfirst, ih hothers]

theorem normalize_of_ofUri {text : String} {n : Name} (h : ofUri text = .ok n) : n.normalize = n := by
  unfold ofUri ofUriText at h
  simp only [bind, Except.bind] at h
  split at h
  · cases h
    rfl
  · split at h
    · cases h
    · next components hread =>
      cases h
      exact congrArg Name.mk (normalize_of_ofSegments hread)

open Wire in
theorem normalize_of_decodeName {config : PacketConfig} {input : Bytes} {n : Name}
    (h : (WireFormat.tlv config).decodeName input = .ok n) : n.normalize = n := by
  obtain ⟨hmax, hread⟩ := withinSize_eq_ok_iff.1 h
  have hsize : input.length < UInt64.size := Nat.lt_of_le_of_lt hmax config.maxPacketSize.toNat_lt
  obtain ⟨e, rest, -, -, hname⟩ := (Reader.AcceptsElement.name.value_eq_ok_iff hsize).1 hread
  exact hname.normalize_eq

/-- A text shows the name, or some bytes hold it. -/
def Accepted (n : Name) : Prop :=
  (∃ text, ofUri text = .ok n) ∨ ∃ config input, (Wire.WireFormat.tlv config).decodeName input = .ok n

theorem Accepted.normalize_eq {n : Name} (h : n.Accepted) : n.normalize = n := by
  rcases h with ⟨text, htext⟩ | ⟨config, input, hinput⟩
  · exact normalize_of_ofUri htext
  · exact normalize_of_decodeName hinput

end Name

/-! ## Digests of any length -/

instance (c : Component) : Decidable c.HasDigestLength :=
  inferInstanceAs (Decidable (_ → _))

/-- A segment with a word of digests is refused unless 32 bytes follow. -/
theorem Component.ofSegment_segment_of_not {c : Component} (h : ¬ c.HasDigestLength) :
    ofSegment c.segment = .error (.invalidDigestLength c.value.length) := by
  obtain ⟨type, value⟩ := c
  have hdigest : ∀ type, value.length ≠ digestLength →
      ofHexDigest type (Text.Hex.encode value) = .error (.invalidDigestLength value.length) := by
    intro type hlength
    rw [ofHexDigest, Text.Hex.decode_encode]
    exact if_neg hlength
  obtain ⟨htype, hlength⟩ := Classical.not_imp.1 h
  rcases htype with rfl | rfl
  · show ofSegment (implicitDigestWord ++ Text.Hex.encode value) = _
    simp only [ofSegment, Text.stripStart_append, hdigest _ hlength]
    rfl
  · show ofSegment (parametersDigestWord ++ Text.Hex.encode value) = _
    have hother : Text.stripStart implicitDigestWord (parametersDigestWord ++ Text.Hex.encode value) = none :=
      Text.stripStart_of_head (by decide)
    simp only [ofSegment, hother, Text.stripStart_append, hdigest _ hlength]
    rfl

namespace Name

/-- The first digest that is not whole is the one that an error is about. -/
theorem ofSegments_map_error {before after : List Component} {c : Component}
    (hbefore : ∀ d ∈ before, d.HasDigestLength) (hc : ¬ c.HasDigestLength) :
    ofSegments ((before ++ c :: after).map Component.segment) = .error (.invalidDigestLength c.value.length) := by
  induction before with
  | nil =>
    simp only [List.nil_append, List.map_cons, ofSegments, Component.ofSegment_segment_of_not hc]
    rfl
  | cons d before ih =>
    have hfirst := Component.ofSegment_segment (hbefore d List.mem_cons_self)
    have hothers := ih fun d' hd' => hbefore d' (List.mem_cons_of_mem _ hd')
    simp only [List.cons_append, List.map_cons, ofSegments, hfirst, hothers]
    rfl

theorem ofUri_toUri_eq (n : Name) :
    ofUri n.toUri = Name.mk <$> ofSegments (n.components.map Component.segment) := by
  have hplain : ({} : Address).uri n = n.toUri := by
    simp [Address.uri, Address.schemeText, Address.authorityText]
  refine ofUriText_eq ?_
  rw [← hplain, Address.dropScheme_trim, Address.dropAuthority_path]

/-- A name that was read, from a text or from bytes, is read back from its text if and only if its digests are
whole. Otherwise it is refused for the first of them that is not: both readers take any number of bytes as
a digest where that is known by the code of its type, the one of texts no other than 32 behind the word
that shows it. -/
theorem ofUri_toUri_accepted_iff (n : Name) (h : n.Accepted) :
    (ofUri n.toUri = .ok n ↔ ∀ c ∈ n.components, c.HasDigestLength)
      ∧ ∀ before c after, n.components = before ++ c :: after → (∀ d ∈ before, d.HasDigestLength) →
          ¬ c.HasDigestLength → ofUri n.toUri = .error (.invalidDigestLength c.value.length) := by
  have hrefused : ∀ before c after, n.components = before ++ c :: after →
      (∀ d ∈ before, d.HasDigestLength) → ¬ c.HasDigestLength →
        ofUri n.toUri = .error (.invalidDigestLength c.value.length) := by
    intro before c after hsplit hbefore hc
    rw [ofUri_toUri_eq, hsplit, ofSegments_map_error hbefore hc]
    rfl
  refine ⟨⟨fun hread => ?_, fun hwhole => ?_⟩, hrefused⟩
  · cases hfirst : n.components.find? fun c => !decide c.HasDigestLength with
    | none => simpa using hfirst
    | some c =>
      obtain ⟨hc, before, after, hsplit, hbefore⟩ := List.find?_eq_some_iff_append.1 hfirst
      have herror := hrefused before c after hsplit (by simpa using hbefore) (by simpa using hc)
      rw [herror] at hread
      cases hread
  · rw [ofUri_toUri_eq, ofSegments_map hwhole]
    exact congrArg Except.ok h.normalize_eq

/-- A digest of 32 letters, and another component. -/
def wholeDigest : Name :=
  ⟨[⟨.implicitSha256Digest, List.replicate 32 0x61⟩, .generic [0x62]]⟩

theorem ofUri_toUri_accepted_iff_wholeDigest :
    ofUri "/1=aaaaaaaaaaaaaaaaaaaaaaaaaaaaaaaa/b" = .ok wholeDigest ∧ wholeDigest.Accepted
      ∧ ofUri wholeDigest.toUri = .ok wholeDigest := by
  have hread : ofUri "/1=aaaaaaaaaaaaaaaaaaaaaaaaaaaaaaaa/b" = .ok wholeDigest := by rfl
  have haccepted : wholeDigest.Accepted := .inl ⟨_, hread⟩
  exact ⟨hread, haccepted, (ofUri_toUri_accepted_iff wholeDigest haccepted).1.2 (by decide)⟩

/-- A digest of three letters. -/
def shortDigest : Name :=
  ⟨[⟨.implicitSha256Digest, [0x61, 0x62, 0x63]⟩]⟩

/-- It is accepted in a text and in bytes under the code of its type, but not as it is shown. -/
theorem accepted_name_refused :
    ofUri "/1=abc" = .ok shortDigest
      ∧ (Wire.WireFormat.tlv {}).decodeName [0x07, 0x05, 0x01, 0x03, 0x61, 0x62, 0x63] = .ok shortDigest
      ∧ shortDigest.toUri = "/sha256digest=616263"
      ∧ ofUri shortDigest.toUri = .error (.invalidDigestLength 3) := by
  refine ⟨by rfl, by rfl, by decide, by rfl⟩

end Name

end NamedData
