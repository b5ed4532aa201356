import NamedData.Proofs.Wire.Recoding

/-!
# What was decoded of Data packets is encoded and decoded again

A Data packet that was decoded can always be encoded, and is decoded from the encoding as it is unless
its validity period has a bound in a year below 0 or above 9999. Such a bound is read where blanks stand
between the year and the month. It is written without blanks, and what is written is refused, since a
year after a sign takes all digits that follow (`year_of_parse_write`).
-/

namespace NamedData

/-- An instant in a year that is written without a sign. -/
def Time.Instant.HasPlainYear (t : Time.Instant) : Prop :=
  0 ≤ t.date.year ∧ t.date.year ≤ 9999

instance (t : Time.Instant) : Decidable t.HasPlainYear :=
  inferInstanceAs (Decidable (_ ∧ _))

/-- A signature whose validity period, if it has one, has bounds in years of four digits. -/
def Signature.HasPlainYears (s : Signature) : Prop :=
  ∀ period, s.validity? = some period → ∀ first last, period.bounds = some (first, last) →
    first.HasPlainYear ∧ last.HasPlainYear

namespace Wire

open Element (concat)

/-! ## Bounds that were written -/

/-- What is written for a value is an element. -/
theorem exists_written {type : UInt64} {value : Bytes}
    (h : (element type value).length < UInt64.size) :
    ∃ e : Element, e.bytes = element type value ∧ e.type = type ∧ e.value = value :=
  ⟨.written type value (Nat.lt_of_le_of_lt (length_le_element type value) h), rfl, rfl, rfl⟩

/-- An instant that is read from what is written for another shows that this one has a plain year. -/
theorem year_of_decodeTime {t t' : Time.Instant} (h : decodeTime (timeValue t) = .ok t') :
    t.HasPlainYear := by
  have htext : decodeText .validityTime (timeValue t) = .ok t.write := by
    rw [decodeText, timeValue, Text.Utf8.decode_encode]
  rw [decodeTime, htext] at h
  cases hparse : Time.Instant.parse t.write with
  | error fault =>
    simp only [bind, Except.bind, hparse] at h
    cases h
  | ok t' => exact Time.Instant.year_of_parse_write hparse

/-- Bounds are written one after the other. -/
theorem years_of_validityFields {es rest : List Element} {first last : Time.Instant}
    {p : Time.Instant × Time.Instant} (h : ValidityFields es p rest)
    (hes : concat es = element ElementType.notBefore (timeValue first)
      ++ element ElementType.notAfter (timeValue last))
    (hsize : (concat es).length < UInt64.size) :
    first.HasPlainYear ∧ last.HasPlainYear := by
  rw [hes, List.length_append] at hsize
  obtain ⟨e₁, he₁, -, hvalue₁⟩ :=
    exists_written (Nat.lt_of_le_of_lt (Nat.le_add_right _ _) hsize)
  obtain ⟨e₂, he₂, -, hvalue₂⟩ :=
    exists_written (Nat.lt_of_le_of_lt (Nat.le_add_left _ _) hsize)
  rw [← he₁, ← he₂] at hes
  obtain ⟨es₁, rfl, hes₁⟩ := Element.exists_cons_of_concat hes
  obtain ⟨es₂, rfl, -⟩ := Element.exists_cons_of_concat (hes₁.trans (List.append_nil _).symm)
  obtain ⟨⟨_, ⟨⟩, -, hfirst⟩, ⟨_, ⟨⟩, -, hlast⟩⟩ := h
  rw [HoldsTime, hvalue₁] at hfirst
  rw [HoldsTime, hvalue₂] at hlast
  exact ⟨year_of_decodeTime hfirst, year_of_decodeTime hlast⟩

/-- A key locator is written as one element or left out. -/
theorem keyLocatorElement?_cases {type : UInt64} {k : KeyLocator} {written : Bytes}
    (h : keyLocatorElement? type k = .ok written) :
    written = [] ∨ ∃ value, written = element type value := by
  cases k with
  | absent =>
    cases h
    exact .inl rfl
  | name | digest =>
    cases h
    exact .inr ⟨_, rfl⟩
  | key | certificate => cases h

/-- A validity period is written as one element, which follows the key locator if there is one. -/
theorem years_of_keyFields {es rest : List Element} {p : KeyLocator × ValidityPeriod} {k : KeyLocator}
    {locator : Bytes} {first last : Time.Instant} (h : KeyFields es p rest)
    (hlocator : keyLocatorElement? ElementType.keyLocator k = .ok locator)
    (hes : concat es = locator ++ validityElement? ⟨some (first, last)⟩)
    (hsize : (concat es).length < UInt64.size) :
    first.HasPlainYear ∧ last.HasPlainYear := by
  obtain ⟨es₁, ⟨found, hfound, -⟩, ⟨bounds, hbounds, -⟩⟩ := h
  replace hes : concat es = locator ++ element ElementType.validityPeriod
      (element ElementType.notBefore (timeValue first)
        ++ element ElementType.notAfter (timeValue last)) := hes
  rw [hes, List.length_append] at hsize
  obtain ⟨period, hperiod, htype, hvalue⟩ :=
    exists_written (Nat.lt_of_le_of_lt (Nat.le_add_left _ _) hsize)
  rw [← hperiod] at hes
  -- the key locator does not take the validity period
  have hnext : concat es₁ = period.bytes := by
    rcases keyLocatorElement?_cases hlocator with rfl | ⟨value, rfl⟩
    · obtain ⟨es₂, rfl, hes₂⟩ := Element.exists_cons_of_concat (hes.trans (List.append_nil _).symm)
      cases hfound with
      | some hlocatorType _ => exact absurd (htype.symm.trans hlocatorType) (by decide)
      | none => exact hes
    · obtain ⟨e, he, hlocatorType, -⟩ := exists_written (Nat.lt_of_le_of_lt (Nat.le_add_right _ _) hsize)
      rw [← he] at hes
      exact hfound.concat_rest hlocatorType hes
  obtain ⟨es₃, rfl, -⟩ := Element.exists_cons_of_concat (hnext.trans (List.append_nil _).symm)
  cases hbounds with
  | some _ hcontains =>
    obtain ⟨inner, after, hinner, hfields, -⟩ := hcontains
    rw [hvalue] at hinner
    refine years_of_validityFields hfields hinner.symm ?_
    rw [← hinner]
    have hle := length_le_element ElementType.validityPeriod
      (element ElementType.notBefore (timeValue first) ++ element ElementType.notAfter (timeValue last))
    omega
  | none hother => exact absurd htype (hother _ rfl)

/-- The description of a scheme with a private key, as it is written. -/
theorem years_of_schemeElement {type : SignatureType} {k : KeyLocator} {locator : Bytes}
    {first last : Time.Instant} {e : Element} {s : Signature}
    (htype : type = .sha256WithRsa ∨ type = .sha256WithEcdsa)
    (hlocator : keyLocatorElement? ElementType.keyLocator k = .ok locator)
    (he : e.bytes = schemeElement type locator (validityElement? ⟨some (first, last)⟩))
    (hsize : e.bytes.length < UInt64.size) (h : DescribesScheme e.bytes e s) :
    first.HasPlainYear ∧ last.HasPlainYear := by
  obtain ⟨-, hvalue, hnumber, hcode, hfields⟩ := h
  next number code after =>
  obtain ⟨info, hinfo, -, hinfoValue⟩ := exists_written (he ▸ hsize)
  obtain rfl := Element.bytes_injective (he.trans hinfo.symm)
  -- the number of the scheme is what was written for it, and so is what follows it
  have hle := e.length_value_le
  rw [hinfoValue, List.append_assoc] at hvalue hle
  rw [List.length_append] at hle
  obtain ⟨number', hnumber', -, hdigits⟩ := exists_written (Nat.lt_of_le_of_lt
    (Nat.le_of_add_right_le hle) hsize)
  rw [integerElement, ← hnumber'] at hvalue
  obtain ⟨rfl, rfl⟩ := Element.unique hvalue
  have hcode' : code = type.code := by
    have hread := Integer.decode?_eq_some_iff.2 hcode
    rw [hdigits, Integer.decode?_encode] at hread
    exact (Option.some.inj hread).symm
  have hkey : ∃ p, Grammar.Fills KeyFields (locator ++ validityElement? ⟨some (first, last)⟩) p := by
    rw [hcode'] at hfields
    rcases htype with rfl | rfl
    · cases hfields with
      | sha256WithRsa hkey => exact ⟨_, hkey⟩
    · cases hfields with
      | sha256WithEcdsa hkey => exact ⟨_, hkey⟩
  obtain ⟨p, es, rest, hes, hkey, -⟩ := hkey
  refine years_of_keyFields hkey hlocator hes.symm ?_
  rw [← hes]
  omega

/-! ## Packets -/

/-- If a description is read where one was written, the years that were written are plain. -/
theorem hasPlainYears_of_describesScheme {d s : Signature} {e : Element} {info after after' : Bytes}
    (hencode : encodeSignatureInfo d = .ok info) (hsize : info.length < UInt64.size)
    (h : DescribesScheme e.bytes e s) (heq : e.bytes ++ after = info ++ after') :
    d.HasPlainYears := by
  rintro ⟨bounds⟩ hperiod first last ⟨⟩
  cases writesScheme_of_encode hencode with
  | digestSha256 | hmacWithSha256 | generic => cases hperiod
  | sha256WithRsa hlocator | sha256WithEcdsa hlocator =>
    cases hperiod
    obtain ⟨e', he', -, -⟩ := exists_written hsize
    obtain ⟨rfl, -⟩ := Element.unique (heq.trans (congrArg (· ++ after') he'.symm))
    exact years_of_schemeElement (by decide) hlocator he' (he' ▸ hsize) h

/-- A packet that is read from what was written for another one shows that the years of this one are
plain. -/
theorem hasPlainYears_of_decodeData {d d' : Data} {info : Bytes} {blob : SignedBlob}
    (hencode : encodeSignatureInfo d.signature = .ok info)
    (hsize : (dataBlob d info).bytes.length < UInt64.size)
    (h : decodeData (dataBlob d info).bytes = .ok (d', blob)) : d.signature.HasPlainYears := by
  obtain ⟨-, -, e, s, after, hscheme, heq, -⟩ := decodeData_dataBlob_eq_ok hsize h
  have hparts := length_signature_le d info
  exact hasPlainYears_of_describesScheme hencode (by omega) hscheme heq

/-- A packet whose signature was read is read with the same signature from what is written for it, if the
years are plain. -/
theorem decodeData_of_isRead {d : Data} {info : Bytes} (hread : IsRead d.signature)
    (hencode : encodeSignatureInfo d.signature = .ok info) (hyears : d.signature.HasPlainYears)
    (hsize : (dataBlob d info).bytes.length < UInt64.size) :
    decodeData (dataBlob d info).bytes
      = .ok ({ d.normalize with signature := d.signature }, dataBlob d info) := by
  have hform : d.signature.HasReadableForm := by
    refine hread.hasReadableForm fun period hperiod first last hbounds => ?_
    obtain ⟨hfirst, hlast⟩ := hread.nanos_lt period hperiod first last hbounds
    obtain ⟨hfirstYear, hlastYear⟩ := hyears period hperiod first last hbounds
    exact ⟨⟨hfirst, hfirstYear.1, hfirstYear.2⟩, hlast, hlastYear.1, hlastYear.2⟩
  obtain ⟨info', hencode', hdescription⟩ := exists_description_asRead hform
  cases hencode.symm.trans hencode'
  have hparts := length_signature_le d info
  obtain ⟨helement, hscheme⟩ := hdescription (by omega)
  rw [decodeData_dataBlob helement (decodeSignature_asRead hscheme (by omega)) hsize, hread.asRead_eq]

/-- A packet that was read can be written, and is read from that if its years are plain. -/
theorem DataPacket.exists_encoding {blob : SignedBlob} {d : Data} (h : DataPacket blob d) :
    ∃ info, encodeSignatureInfo d.signature = .ok info ∧ (d.signature.HasPlainYears →
      (dataBlob d info).bytes.length < UInt64.size →
        decodeData (dataBlob d info).bytes = .ok (d, dataBlob d info)) := by
  obtain ⟨-, -, -, hfields, -, -⟩ := h
  have hnormal := hfields.normalize_eq
  have hread : IsRead d.signature := by
    obtain ⟨-, -, -, hscheme, -, -⟩ := hfields
    exact hscheme.isRead.withBytes _
  obtain ⟨info, hencode⟩ := hread.exists_info
  refine ⟨info, hencode, fun hyears hsize => ?_⟩
  rw [decodeData_of_isRead hread hencode hyears hsize, hnormal]

/-- A Data packet that was decoded can be encoded. If that is within the size limit, it is decoded as the
same packet and from all of its bytes if and only if the bounds of the validity period are in years of
four digits; otherwise it is refused. -/
theorem decoded_data_recodes_iff (config : PacketConfig) (input : Bytes) (d : Data) (blob : SignedBlob)
    (h : (WireFormat.tlv config).decodeData input = .ok (d, blob)) :
    ∃ blob', (WireFormat.tlv config).encodeData d = .ok blob' ∧
      (blob'.bytes.length ≤ config.maxPacketSize.toNat →
        ((WireFormat.tlv config).decodeData blob'.bytes = .ok (d, blob') ↔ d.signature.HasPlainYears)
          ∧ (¬ d.signature.HasPlainYears →
            ∃ e, (WireFormat.tlv config).decodeData blob'.bytes = .error e)) := by
  obtain ⟨hmax, hread⟩ := withinSize_eq_ok_iff.1 h
  have hlt := config.maxPacketSize.toNat_lt
  obtain ⟨info, hencode, hback⟩ :=
    ((decodeData_eq_ok_iff (Nat.lt_of_le_of_lt hmax hlt)).1 hread).1.exists_encoding
  have hblob : (WireFormat.tlv config).encodeData d = .ok (dataBlob d info) := by
    show encodeData d = _
    rw [encodeData_eq, hencode]
    rfl
  refine ⟨dataBlob d info, hblob, fun hsize => ?_⟩
  have hsize' := Nat.lt_of_le_of_lt hsize hlt
  have hplain {d' : Data} {blob' : SignedBlob}
      (hdecode : (WireFormat.tlv config).decodeData (dataBlob d info).bytes = .ok (d', blob')) :
      d.signature.HasPlainYears :=
    hasPlainYears_of_decodeData hencode hsize' (withinSize_eq_ok_iff.1 hdecode).2
  refine ⟨⟨hplain, fun hyears => withinSize_eq_ok_iff.2 ⟨hsize, hback hyears hsize'⟩⟩, fun hnot => ?_⟩
  cases hdecode : (WireFormat.tlv config).decodeData (dataBlob d info).bytes with
  | error e => exact ⟨e, rfl⟩
  | ok p => exact absurd (hplain hdecode) hnot

/-- A packet with a validity period in the year 2024, with blanks and single digits in its texts. -/
def blankValidityBytes : Bytes :=
  [0x06, 0x41, 0x07, 0x03, 0x08, 0x01, 0x61, 0x14, 0x00, 0x15, 0x00, 0x16, 0x33, 0x1b, 0x01, 0x01,
  0xfd, 0x00, 0xfd, 0x2c, 0xfd, 0x00, 0xfe, 0x12, 0x32, 0x30, 0x32, 0x34, 0x20, 0x20, 0x30, 0x31,
  0x20, 0x31, 0x54, 0x20, 0x30, 0x30, 0x30, 0x30, 0x30, 0x30, 0xfd, 0x00, 0xff, 0x12, 0x32, 0x30,
  0x32, 0x34, 0x20, 0x20, 0x30, 0x31, 0x20, 0x31, 0x54, 0x20, 0x30, 0x30, 0x30, 0x30, 0x30, 0x30,
  0x17, 0x01, 0x03]

def blankValidity : Data where
  name := ⟨[.generic [0x61]]⟩
  signature := .sha256WithRsa [0x03] .absent ⟨some (⟨1704067200, 0⟩, ⟨1704067200, 0⟩)⟩

/-- What the packet is encoded as, with each number in all its digits. -/
def blankValidityBlob : SignedBlob where
  bytes :=
    [0x06, 0x3b, 0x07, 0x03, 0x08, 0x01, 0x61, 0x14, 0x00, 0x15, 0x00, 0x16, 0x2d, 0x1b, 0x01, 0x01,
    0xfd, 0x00, 0xfd, 0x26, 0xfd, 0x00, 0xfe, 0x0f, 0x32, 0x30, 0x32, 0x34, 0x30, 0x31, 0x30, 0x31,
    0x54, 0x30, 0x30, 0x30, 0x30, 0x30, 0x30, 0xfd, 0x00, 0xff, 0x0f, 0x32, 0x30, 0x32, 0x34, 0x30,
    0x31, 0x30, 0x31, 0x54, 0x30, 0x30, 0x30, 0x30, 0x30, 0x30, 0x17, 0x01, 0x03]
  signedBegin := 2
  signedEnd := 58

theorem decoded_data_recodes_iff_blank :
    (WireFormat.tlv {}).encodeData blankValidity = .ok blankValidityBlob
      ∧ (WireFormat.tlv {}).decodeData blankValidityBlob.bytes
        = .ok (blankValidity, blankValidityBlob) := by
  have hdecode : (WireFormat.tlv {}).decodeData blankValidityBytes
      = .ok (blankValidity, ⟨blankValidityBytes, 2, 64⟩) := eq_ok_of_toOption (by decide +kernel)
  have hencode : (WireFormat.tlv {}).encodeData blankValidity = .ok blankValidityBlob :=
    eq_ok_of_toOption (by decide +kernel)
  have hyears : blankValidity.signature.HasPlainYears := by
    rintro _ ⟨⟩ first last ⟨⟩
    decide
  obtain ⟨blob', hencode', hback⟩ := decoded_data_recodes_iff {} _ _ _ hdecode
  cases hencode.symm.trans hencode'
  exact ⟨hencode, (hback (by decide)).1.2 hyears⟩

/-- A packet with a validity period in the year 12345, with a blank after the year. -/
def farValidityBytes : Bytes :=
  [0x06, 0x41, 0x07, 0x03, 0x08, 0x01, 0x61, 0x14, 0x00, 0x15, 0x00, 0x16, 0x33, 0x1b, 0x01, 0x01,
  0xfd, 0x00, 0xfd, 0x2c, 0xfd, 0x00, 0xfe, 0x12, 0x2b, 0x31, 0x32, 0x33, 0x34, 0x35, 0x20, 0x30,
  0x31, 0x30, 0x31, 0x54, 0x30, 0x30, 0x30, 0x30, 0x30, 0x30, 0xfd, 0x00, 0xff, 0x12, 0x2b, 0x31,
  0x32, 0x33, 0x34, 0x35, 0x20, 0x30, 0x31, 0x30, 0x31, 0x54, 0x30, 0x30, 0x30, 0x30, 0x30, 0x30,
  0x17, 0x01, 0x03]

def farValidity : Data where
  name := ⟨[.generic [0x61]]⟩
  signature := .sha256WithRsa [0x03] .absent ⟨some (⟨327403382400, 0⟩, ⟨327403382400, 0⟩)⟩

/-- What the far validity period is encoded as. -/
def farValidityBlob : SignedBlob where
  bytes :=
    [0x06, 0x3f, 0x07, 0x03, 0x08, 0x01, 0x61, 0x14, 0x00, 0x15, 0x00, 0x16, 0x31, 0x1b, 0x01, 0x01,
    0xfd, 0x00, 0xfd, 0x2a, 0xfd, 0x00, 0xfe, 0x11, 0x2b, 0x31, 0x32, 0x33, 0x34, 0x35, 0x30, 0x31,
    0x30, 0x31, 0x54, 0x30, 0x30, 0x30, 0x30, 0x30, 0x30, 0xfd, 0x00, 0xff, 0x11, 0x2b, 0x31, 0x32,
    0x33, 0x34, 0x35, 0x30, 0x31, 0x30, 0x31, 0x54, 0x30, 0x30, 0x30, 0x30, 0x30, 0x30, 0x17, 0x01,
    0x03]
  signedBegin := 2
  signedEnd := 62

/-- Such a packet is decoded and encoded, and the encoding is refused. -/
theorem decoded_data_refused :
    (∃ blob, (WireFormat.tlv {}).decodeData farValidityBytes = .ok (farValidity, blob))
      ∧ (WireFormat.tlv {}).encodeData farValidity = .ok farValidityBlob
      ∧ farValidityBlob.bytes.length ≤ ({} : PacketConfig).maxPacketSize.toNat
      ∧ (WireFormat.tlv {}).decodeData farValidityBlob.bytes = .error (.invalidValue
        (.notATime "+123450101T000000".toList .invalid)) := by
  have hdecode : (WireFormat.tlv {}).decodeData farValidityBytes
      = .ok (farValidity, ⟨farValidityBytes, 2, 64⟩) := eq_ok_of_toOption (by decide +kernel)
  exact ⟨⟨_, hdecode⟩, eq_ok_of_toOption (by decide +kernel), by decide, rfl⟩

end Wire

end NamedData
