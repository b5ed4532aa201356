import NamedData.Proofs.Wire.Checked
import NamedData.Proofs.Wire.DataRecoding
import NamedData.Proofs.Wire.Shortest

/-!
# What was decoded of signatures is put into packets

The description of a named scheme is read field by field and is written anew as one element. That of another
scheme is kept as it was given, with whatever stands behind the element, and is written with that. So a packet
with a signature that was decoded is decoded with the same signature if and only if what is written for its
scheme is one element and the years of its validity period are plain (`decoded_signature_recodes`).
-/

namespace NamedData

/-- The scheme has a name here, and its description is not kept as it was encoded. -/
def Signature.HasNamedScheme : Signature → Prop
  | generic _ _ _ => False
  | digestSha256 _ => True
  | hmacWithSha256 _ _ => True
  | sha256WithRsa _ _ _ => True
  | sha256WithEcdsa _ _ _ => True

namespace Wire

open Element (concat)

variable {info info' bytes : Bytes} {es rest : List Element} {e : Element} {s : Signature}

/-! ## Schemes with a name and without -/

/-- The whole input is kept for unknown schemes only. -/
theorem SchemeFields.congr {type : SignatureType} (h : SchemeFields info type bytes s)
    (hnamed : s.HasNamedScheme) : SchemeFields info' type bytes s := by
  cases h with
  | digestSha256 htail => exact .digestSha256 htail
  | hmacWithSha256 hk => exact .hmacWithSha256 hk
  | sha256WithRsa hkey => exact .sha256WithRsa hkey
  | sha256WithEcdsa hkey => exact .sha256WithEcdsa hkey
  | other => exact hnamed.elim

/-- A signature of a named scheme is in normal form, whatever stood behind the description it was read from. -/
theorem DescribesScheme.isRead_of_named (h : DescribesScheme info e s) (hnamed : s.HasNamedScheme) :
    IsRead s := by
  obtain ⟨htype, hvalue, hnumber, hcode, hfields⟩ := h
  have hwhole : DescribesScheme e.bytes e s := .mk htype hvalue hnumber hcode (hfields.congr hnamed)
  exact hwhole.isRead

theorem DescribesScheme.named_or_generic (h : DescribesScheme info e s) :
    s.HasNamedScheme ∨ ∃ code, s = .generic [] info (some code) := by
  obtain ⟨-, -, -, -, hfields⟩ := h
  generalize SignatureType.ofCode _ = type at hfields
  cases hfields with
  | digestSha256 | hmacWithSha256 | sha256WithRsa | sha256WithEcdsa => exact .inl trivial
  | other => exact .inr ⟨_, rfl⟩

theorem encodeSignatureInfo_withBytes (s : Signature) (bytes : Bytes) :
    encodeSignatureInfo (s.withBytes bytes) = encodeSignatureInfo s := by
  cases s <;> rfl

theorem hasNamedScheme_withBytes_iff : (s.withBytes bytes).HasNamedScheme ↔ s.HasNamedScheme := by
  cases s <;> exact Iff.rfl

/-! ## Lengths -/

theorem length_timeValue_le {t : Time.Instant} (h : HoldsTime e t) : (timeValue t).length ≤ 72 := by
  obtain ⟨text, hparse⟩ := h.exists_parse
  have hwrite := Time.Instant.length_write_le hparse
  have hencode := Text.Utf8.length_encode_le t.write
  rw [timeValue]
  omega

/-- The text of a bound may grow, but not without end. -/
theorem length_bounds_le {e' : Element} {first last : Time.Instant} (hfirst : HoldsTime e first)
    (hlast : HoldsTime e' last) : (validityElement? ⟨some (first, last)⟩).length ≤ 198 := by
  have hfirst := length_timeValue_le hfirst
  have hlast := length_timeValue_le hlast
  have hnotBefore := (length_element_bounds ElementType.notBefore (timeValue first)).2
  have hnotAfter := (length_element_bounds ElementType.notAfter (timeValue last)).2
  have hperiod := (length_element_bounds ElementType.validityPeriod
    (element ElementType.notBefore (timeValue first)
      ++ element ElementType.notAfter (timeValue last))).2
  rw [List.length_append] at hperiod
  refine Nat.le_trans hperiod ?_
  omega

theorem length_validityElement_le {period : ValidityPeriod} (h : ValidityField es period rest) :
    (validityElement? period).length ≤ 198 := by
  obtain ⟨bounds, hbounds, rfl⟩ := h
  cases hbounds with
  | some _ hcontains =>
    obtain ⟨_, _, -, ⟨⟨_, -, -, hfirst⟩, ⟨_, -, -, hlast⟩⟩, -⟩ := hcontains
    exact length_bounds_le hfirst hlast
  | none => exact Nat.zero_le _

/-- A key locator is written in no more bytes than it was read from. -/
theorem length_keyLocatorElement_le {k : KeyLocator} {locator : Bytes} (h : KeyLocatorField es k rest)
    (hlocator : keyLocatorElement? ElementType.keyLocator k = .ok locator) :
    locator.length ≤ (concat es).length := by
  obtain ⟨found, hfound, rfl⟩ := h
  obtain ⟨written, hwritten, hroom⟩ := exists_keyLocatorElement hfound
  cases hlocator.symm.trans hwritten
  exact hroom.length_le

theorem length_schemeElement_le (type : SignatureType) (locator validity : Bytes) :
    (schemeElement type locator validity).length ≤ locator.length + validity.length + 44 := by
  have hcode : (Integer.encode type.code).length ≤ 8 := by
    unfold Integer.encode
    repeat' split
    all_goals exact Nat.le_trans (Nat.le_of_eq (Bytes.length_bigEndian _ _)) (by decide)
  have hnumber := (length_element_bounds ElementType.signatureType (Integer.encode type.code)).2
  have helement := (length_element_bounds ElementType.signatureInfo
    (integerElement ElementType.signatureType type.code ++ locator ++ validity)).2
  rw [List.length_append, List.length_append, integerElement] at helement
  rw [schemeElement]
  exact Nat.le_trans helement (by omega)

/-- A locator and a period that were read, written one after the other. -/
theorem length_keyFields_le {k : KeyLocator} {period : ValidityPeriod} {locator : Bytes}
    (h : Grammar.Fills KeyFields bytes (k, period))
    (hlocator : keyLocatorElement? ElementType.keyLocator k = .ok locator) :
    locator.length + (validityElement? period).length ≤ bytes.length + 198 := by
  obtain ⟨es, _, rfl, ⟨es₁, hk, hperiod⟩, -⟩ := h
  exact Nat.add_le_add (length_keyLocatorElement_le hk hlocator) (length_validityElement_le hperiod)

/-- What is written for a scheme that was read is hardly longer than what it was read from. -/
theorem DescribesScheme.length_info_le (h : DescribesScheme info e s) (hnamed : s.HasNamedScheme)
    (hencode : encodeSignatureInfo s = .ok info') : info'.length ≤ e.bytes.length + 242 := by
  obtain ⟨-, hvalue, -, -, hfields⟩ := h
  next number code after =>
  have hle : after.length ≤ e.bytes.length := by
    refine Nat.le_trans ?_ e.length_value_le
    rw [hvalue, List.length_append]
    exact Nat.le_add_left _ _
  generalize SignatureType.ofCode code = type at hfields
  cases hfields with
  | digestSha256 =>
    cases hencode
    exact Nat.le_trans (length_schemeElement_le _ _ _) (by simp)
  | hmacWithSha256 hk =>
    obtain ⟨_, _, rfl, hk, -⟩ := hk
    obtain ⟨locator, hlocator, ⟨⟩⟩ := exists_of_bind_eq_ok hencode
    have hlocator := length_keyLocatorElement_le hk hlocator
    refine Nat.le_trans (length_schemeElement_le _ _ _) ?_
    rw [List.length_nil]
    omega
  | sha256WithRsa hkey | sha256WithEcdsa hkey =>
    obtain ⟨locator, hlocator, ⟨⟩⟩ := exists_of_bind_eq_ok hencode
    have hparts := length_keyFields_le hkey hlocator
    refine Nat.le_trans (length_schemeElement_le _ _ _) ?_
    omega
  | other => exact hnamed.elim

/-! ## What is written -/

/-- The description that is written for a signature that was read: an element if the scheme has a name,
and else what was given. -/
theorem DescribesScheme.exists_info (h : DescribesScheme info e s) (heq : info = e.bytes ++ bytes)
    (haddressable : Addressable info) : ∃ info', encodeSignatureInfo s = .ok info'
      ∧ (s.HasNamedScheme ∧ IsElement ElementType.signatureInfo info'
        ∨ ¬ s.HasNamedScheme ∧ info' = info) := by
  rcases h.named_or_generic with hnamed | ⟨code, rfl⟩
  · obtain ⟨info', hencode⟩ := (h.isRead_of_named hnamed).exists_info
    refine ⟨info', hencode, .inl ⟨hnamed, ?_⟩⟩
    rcases (writesScheme_of_encode hencode).element_or_generic with ⟨value, rfl⟩ | ⟨_, _, rfl⟩
    · refine isElement_element ?_
      have hle := h.length_info_le hnamed hencode
      have hlength := congrArg List.length heq
      rw [List.length_append] at hlength
      rw [Addressable] at haddressable
      have hsize : Nat.pow 2 63 + 242 < UInt64.size := by decide
      omega
    · exact hnamed.elim
  · have hne : ¬ info.isEmpty = true := by
      rw [List.isEmpty_iff, heq]
      exact List.append_ne_nil_of_left_ne_nil e.startsWith.ne_nil _
    exact ⟨info, if_neg hne, .inr ⟨not_false, rfl⟩⟩

/-- A description that is kept as one element has nothing behind it. -/
theorem DescribesScheme.isRead_of_isElement (h : DescribesScheme info e s) (heq : info = e.bytes ++ bytes)
    (helement : IsElement ElementType.signatureInfo info) : IsRead s := by
  obtain ⟨value, hvalue⟩ := helement
  let whole : Element := ⟨_, value, info, hvalue⟩
  have hwhole : whole.bytes ++ [] = e.bytes ++ bytes := (List.append_nil info).trans heq
  obtain ⟨-, rfl⟩ := Element.unique hwhole
  rw [List.append_nil] at heq
  subst heq
  exact h.isRead

/-- The description that is kept in a packet is one element. -/
theorem DataPacket.isElement_info {blob : SignedBlob} {d : Data} {code : Option UInt64}
    (h : DataPacket blob d) (hsignature : d.signature = .generic bytes info code) :
    IsElement ElementType.signatureInfo info := by
  obtain ⟨-, -, -, hfields, -, -⟩ := h
  obtain ⟨-, -, -, hscheme, -, -⟩ := hfields
  next _ _ e value _ _ _ s =>
  rcases hscheme.named_or_generic with hnamed | ⟨code', rfl⟩
  · have hkept : (s.withBytes value.value).HasNamedScheme := hasNamedScheme_withBytes_iff.2 hnamed
    rw [show s.withBytes value.value = .generic bytes info code from hsignature] at hkept
    exact hkept.elim
  · cases hsignature
    obtain ⟨htype, -⟩ := hscheme
    exact ⟨e.value, htype ▸ e.isElement⟩

/-- A signature that was decoded can be written. What is written for its scheme is one element if the scheme
has a name; else it is the description as it was given, also where that is more than one element. A Data
packet with the signature can be encoded. If that is within the size limit, it is decoded with the same
signature if and only if what is written for the scheme is one element and the bounds of the validity period
are in years of four digits. -/
theorem decoded_signature_recodes (config : PacketConfig) (info value : Bytes) (s : Signature)
    (haddressable : Addressable info)
    (h : (WireFormat.tlv config).decodeSignature info value = .ok s) :
    ∃ info', (WireFormat.tlv config).encodeSignatureInfo s = .ok info'
      ∧ (IsElement ElementType.signatureInfo info'
        ↔ s.HasNamedScheme ∨ IsElement ElementType.signatureInfo info)
      ∧ (¬ s.HasNamedScheme → info' = info)
      ∧ ∀ d : Data, d.signature = s → ∃ b, (WireFormat.tlv config).encodeData d = .ok b
        ∧ (b.bytes.length ≤ config.maxPacketSize.toNat →
          ((∃ d' blob, (WireFormat.tlv config).decodeData b.bytes = .ok (d', blob) ∧ d'.signature = s)
            ↔ IsElement ElementType.signatureInfo info' ∧ s.HasPlainYears)) := by
  replace h : withinSize config (fun info => withinSize config (decodeSignature info) value) info = .ok s := h
  have hlt {input : Bytes} (hmax : input.length ≤ config.maxPacketSize.toNat) :
      input.length < UInt64.size := Nat.lt_of_le_of_lt hmax config.maxPacketSize.toNat_lt
  obtain ⟨hinfo, h⟩ := withinSize_eq_ok_iff.1 h
  obtain ⟨hvalue, h⟩ := withinSize_eq_ok_iff.1 h
  obtain ⟨e, e', rest, rest', s', heq, hscheme, -, -, rfl⟩ :=
    (decodeSignature_eq_ok_iff (hlt hinfo) (hlt hvalue)).1 h
  obtain ⟨info', hencode, hwritten⟩ := hscheme.exists_info heq haddressable
  rw [← encodeSignatureInfo_withBytes s' e'.value] at hencode
  refine ⟨info', hencode, ?_, ?_, fun d hd => ?_⟩
  · rw [hasNamedScheme_withBytes_iff]
    rcases hwritten with ⟨hnamed, helement⟩ | ⟨hnot, rfl⟩
    · exact iff_of_true helement (.inl hnamed)
    · exact (or_iff_right hnot).symm
  · rw [hasNamedScheme_withBytes_iff]
    intro hnot
    rcases hwritten with ⟨hnamed, -⟩ | ⟨-, hkept⟩
    · exact absurd hnamed hnot
    · exact hkept
  rw [← hd] at hencode ⊢
  refine ⟨dataBlob d info', encodeData_eq_ok_iff.2 ⟨info', hencode, rfl⟩, fun hsize => ⟨?_, ?_⟩⟩
  · rintro ⟨d', blob, hdecode, hsame⟩
    obtain ⟨-, hdecode⟩ := withinSize_eq_ok_iff.1 hdecode
    refine ⟨?_, hasPlainYears_of_decodeData hencode (hlt hsize) hdecode⟩
    rcases hwritten with ⟨-, helement⟩ | ⟨hnot, rfl⟩
    · exact helement
    · obtain ⟨code, rfl⟩ := hscheme.named_or_generic.resolve_left hnot
      exact ((decodeData_eq_ok_iff (hlt hsize)).1 hdecode).1.isElement_info (hsame.trans hd)
  · rintro ⟨helement, hyears⟩
    have hread : IsRead s' := by
      rcases hwritten with ⟨hnamed, -⟩ | ⟨-, rfl⟩
      · exact hscheme.isRead_of_named hnamed
      · exact hscheme.isRead_of_isElement heq helement
    have hread : IsRead d.signature := hd ▸ hread.withBytes e'.value
    exact ⟨_, _, withinSize_eq_ok_iff.2 ⟨hsize, decodeData_of_isRead hread hencode hyears (hlt hsize)⟩, rfl⟩

/-- A signature under the unknown scheme 200, with nothing behind its description. -/
theorem decoded_signature_recodes_foreign :
    (WireFormat.tlv {}).encodeSignatureInfo (.generic [0x55] [0x16, 0x03, 0x1b, 0x01, 0xc8] (some 200))
        = .ok [0x16, 0x03, 0x1b, 0x01, 0xc8]
      ∧ ∃ d' blob, (WireFormat.tlv {}).decodeData [0x06, 0x11, 0x07, 0x03, 0x08, 0x01, 0x61, 0x14, 0x00,
          0x15, 0x00, 0x16, 0x03, 0x1b, 0x01, 0xc8, 0x17, 0x01, 0x55] = .ok (d', blob)
        ∧ d'.signature = .generic [0x55] [0x16, 0x03, 0x1b, 0x01, 0xc8] (some 200) := by
  have hdecode : (WireFormat.tlv {}).decodeSignature [0x16, 0x03, 0x1b, 0x01, 0xc8] [0x17, 0x01, 0x55]
      = .ok (.generic [0x55] [0x16, 0x03, 0x1b, 0x01, 0xc8] (some 200)) :=
    eq_ok_of_toOption (by decide +kernel)
  have helement : IsElement ElementType.signatureInfo [0x16, 0x03, 0x1b, 0x01, 0xc8] :=
    isElement_element (show (element ElementType.signatureInfo [0x1b, 0x01, 0xc8]).length < _ by decide)
  have haddressable : Addressable [0x16, 0x03, 0x1b, 0x01, 0xc8] :=
    show List.length [0x16, 0x03, 0x1b, 0x01, 0xc8] < Nat.pow 2 63 by decide
  obtain ⟨info', hencode, -, -, hpackets⟩ := decoded_signature_recodes {} _ _ _ haddressable hdecode
  cases hencode
  obtain ⟨b, hb, hback⟩ := hpackets
    { name := ⟨[.generic [0x61]]⟩
      signature := .generic [0x55] [0x16, 0x03, 0x1b, 0x01, 0xc8] (some 200) } rfl
  cases hb
  exact ⟨rfl, (hback (by decide)).2 ⟨helement, nofun⟩⟩

/-- A byte behind the description of the scheme, which is not looked at, is kept with it: what is written
is no element, and a packet with the signature is refused. -/
theorem trailed_signature_refused :
    (WireFormat.tlv {}).decodeSignature [0x16, 0x03, 0x1b, 0x01, 0xc8, 0xff] [0x17, 0x00]
        = .ok (.generic [] [0x16, 0x03, 0x1b, 0x01, 0xc8, 0xff] (some 200))
      ∧ (WireFormat.tlv {}).encodeSignatureInfo
          (.generic [] [0x16, 0x03, 0x1b, 0x01, 0xc8, 0xff] (some 200))
        = .ok [0x16, 0x03, 0x1b, 0x01, 0xc8, 0xff]
      ∧ ¬ IsElement ElementType.signatureInfo [0x16, 0x03, 0x1b, 0x01, 0xc8, 0xff]
      ∧ ((WireFormat.tlv {}).encodeData {
          name := ⟨[.generic [0x61]]⟩
          signature := .generic [] [0x16, 0x03, 0x1b, 0x01, 0xc8, 0xff] (some 200) }).toOption.map
            (fun b => ((WireFormat.tlv {}).decodeData b.bytes).toOption) = some none := by
  refine ⟨eq_ok_of_toOption (by decide +kernel), rfl, ?_, by decide +kernel⟩
  rintro ⟨value, hvalue⟩
  let whole : Element := ⟨_, value, _, hvalue⟩
  let first : Element := .written ElementType.signatureInfo [0x1b, 0x01, 0xc8] (by decide)
  have hbytes : whole.bytes ++ [] = first.bytes ++ [0xff] := rfl
  obtain ⟨-, ⟨⟩⟩ := Element.unique hbytes

end Wire

end NamedData
