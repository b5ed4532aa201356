import NamedData.Proofs.Wire.Interest
import NamedData.Proofs.Wire.Signature

/-!
# Data packets are read back

A Data packet whose signature has a form on the wire can be encoded, and what it is encoded as is
decoded again (`Data.asRead`): codes that have a name carry it, the name of a key carries no type, the
freshness is in whole milliseconds and the bounds of a validity period are in whole seconds. A leap
second is told where it is the last second of a minute.
-/

namespace NamedData

/-! ## Normal forms -/

/-- The kind of content by its name, if it has one. -/
def ContentType.normalize (type : ContentType) : ContentType :=
  ofCode type.code

/-- Meta information as the wire can hold it. -/
def MetaInfo.normalize (m : MetaInfo) : MetaInfo where
  contentType := m.contentType.normalize
  freshnessPeriod := m.freshnessPeriod.map Time.Duration.truncate
  finalBlockId := m.finalBlockId.map Component.normalize

/-- A Data packet as the wire can hold it. -/
def Data.normalize (d : Data) : Data where
  name := d.name.normalize
  metaInfo := d.metaInfo.normalize
  content := d.content
  signature := d.signature.normalize

/-- A Data packet as it is read. -/
def Data.asRead (d : Data) : Data :=
  { d.normalize with signature := d.signature.asRead }

namespace Wire

open Reader (Reads)

variable {offset : Nat} {after : Bytes} {types : List UInt64}

/-! ## Meta information -/

theorem StartsIn.finalBlockId (c : Option Component) :
    StartsIn [ElementType.finalBlockId] (match c with
      | none => []
      | some c => element ElementType.finalBlockId (componentElement c)) := by
  cases c with
  | none => exact .inl rfl
  | some c => exact ofElement _ _

namespace Reader.Reads

/-- Blobs are the kind of content that is left out. -/
theorem contentType (type : ContentType) (hafter : StartsIn types after)
    (hnot : ElementType.contentType ∉ types) :
    ∃ found, Reads (optional ElementType.contentType (integer ElementType.contentType)) offset
        (if type = .blob then [] else integerElement ElementType.contentType type.code) after found
      ∧ (found.map ContentType.ofCode).getD .blob = type.normalize := by
  by_cases hblob : type = .blob
  · subst hblob
    exact ⟨none, optional_none hafter hnot, rfl⟩
  · rw [if_neg hblob]
    exact ⟨some type.code, optional_some (.integer type.code) (startsWith_element _ _), rfl⟩

/-- The component of the final block is an element inside an element. -/
theorem finalBlockId (c : Option Component) (hafter : StartsIn types after)
    (hnot : ElementType.finalBlockId ∉ types) :
    Reads (optionalNested ElementType.finalBlockId component) offset (match c with
      | none => []
      | some c => element ElementType.finalBlockId (componentElement c)) after
      (c.map Component.normalize) := by
  cases c with
  | none => exact optional_none hafter hnot
  | some c =>
    exact optional_some (.nested (headerForm_header _ _) (.component c)) (startsWith_element _ _)

protected theorem metaInfo (m : MetaInfo) :
    Reads metaInfo offset (metaInfoValue m) [] m.normalize := by
  have hfinal := StartsIn.finalBlockId m.finalBlockId
  have hfreshness := (StartsIn.integerElement? ElementType.freshnessPeriod
    (m.freshnessPeriod.map Time.Duration.saturatedMillis)).append hfinal
  obtain ⟨found, hcontentType, hnormal⟩ :=
    contentType m.contentType (hfreshness.append .nil) (by decide)
  rw [metaInfoValue, List.append_assoc]
  refine .bind hcontentType (.bind (.optional_integer _ (hfinal.append .nil) (by decide)) ?_)
  refine .bind_right (.finalBlockId m.finalBlockId .nil List.not_mem_nil) ?_
  rw [hnormal, Time.Duration.map_ofMillis_saturatedMillis]
  exact .pure m.normalize

end Reader.Reads

/-! ## Data packets -/

/-- The bytes of a Data packet, given the description of the signature's scheme, and their signed
range. -/
def dataBlob (d : Data) (info : Bytes) : SignedBlob :=
  let signed := signedPart d info
  let value := signed ++ element ElementType.signatureValue d.signature.bytes
  let signedBegin := (header ElementType.data value.length).length
  ⟨element ElementType.data value, signedBegin, signedBegin + signed.length⟩

theorem encodeData_eq (d : Data) :
    encodeData d = (encodeSignatureInfo d.signature).map (dataBlob d) := by
  rw [encodeData]
  cases encodeSignatureInfo d.signature <;> rfl

/-- What a packet is encoded as is its blob with the description of the scheme. -/
theorem encodeData_eq_ok_iff {d : Data} {b : SignedBlob} : encodeData d = .ok b ↔
    ∃ info, encodeSignatureInfo d.signature = .ok info ∧ dataBlob d info = b := by
  rw [encodeData_eq]
  cases encodeSignatureInfo d.signature with
  | error e => exact iff_of_false (by rintro ⟨⟩) (by rintro ⟨_, ⟨⟩, -⟩)
  | ok info =>
    constructor
    · rintro ⟨⟩
      exact ⟨info, rfl, rfl⟩
    · rintro ⟨_, ⟨⟩, rfl⟩
      rfl

/-- A packet is read with the signature that is decoded from its two elements. -/
theorem Reader.Reads.dataWith {d : Data} {info : Bytes} {signature : Signature}
    (h : IsElement ElementType.signatureInfo info)
    (hdecode : decodeSignature info (element ElementType.signatureValue d.signature.bytes)
      = .ok signature) :
    Reads data 0 (dataBlob d info).bytes [] ({ d.normalize with signature },
      (dataBlob d info).signedBegin, (dataBlob d info).signedEnd) := by
  obtain ⟨value, head, hhead, -, heq⟩ := h
  -- the packet only skips over the description, which may be in any form
  have hinfo : ∀ offset after, Reads (blob ElementType.signatureInfo) offset info after value := by
    intro offset after
    rw [heq]
    exact .blob hhead
  simp only [dataBlob, signedPart, List.append_assoc]
  refine .nested (headerForm_header _ _) (.bind_left .offset_self (.bind (.name d.name) ?_))
  refine .bind (optional_some (.nested (headerForm_header _ _) (.metaInfo d.metaInfo))
    (startsWith_element _ _)) ?_
  refine .bind (optional_some (.blob (headerForm_header _ _)) (startsWith_element _ _)) ?_
  refine .bind (.withBytes (hinfo _ _)) (.bind_left .offset_self ?_)
  refine .bind_right (.withBytes (.blob (headerForm_header _ _))) (.bind_left (.lift hdecode) ?_)
  simp only [List.length_append, Nat.zero_add, Nat.add_assoc]
  exact .pure _

/-- The two elements of the signature are a part of the packet. -/
theorem length_signature_le (d : Data) (info : Bytes) :
    info.length + (element ElementType.signatureValue d.signature.bytes).length
      ≤ (dataBlob d info).bytes.length := by
  have hvalue := length_le_element ElementType.data
    (signedPart d info ++ element ElementType.signatureValue d.signature.bytes)
  rw [List.length_append, signedPart, List.length_append] at hvalue
  exact Nat.le_trans (by omega) hvalue

/-- Every Data packet whose signature has a form on the wire can be encoded and, if that is within
the size limit, is decoded from it, to the same bytes and signed range. What is decoded is the normal
form of the packet if leap seconds end minutes; in any other second a leap second is the next one. -/
theorem data_round_trip (config : PacketConfig) (d : Data) (h : d.signature.HasReadableForm) :
    (∃ b, (WireFormat.tlv config).encodeData d = .ok b ∧
      (b.bytes.length ≤ config.maxPacketSize.toNat →
        (WireFormat.tlv config).decodeData b.bytes = .ok (d.asRead, b)))
    ∧ (d.signature.HasForm → d.asRead = d.normalize) := by
  obtain ⟨info, hencode, hdescription⟩ := exists_description_asRead h
  refine ⟨⟨dataBlob d info, ?_, fun hsize => ?_⟩, fun hform => ?_⟩
  · show encodeData d = _
    rw [encodeData_eq, hencode]
    rfl
  · have hlt : (dataBlob d info).bytes.length < UInt64.size :=
      Nat.lt_of_le_of_lt hsize config.maxPacketSize.toNat_lt
    -- the elements of the signature are read on their own, and are short since the packet is
    have hparts := length_signature_le d info
    obtain ⟨helement, hscheme⟩ := hdescription (by omega)
    have hsignature := decodeSignature_asRead hscheme (by omega)
    have hrun := (Reads.dataWith helement hsignature).run_whole hlt
    show withinSize config decodeData _ = _
    rw [withinSize_of_le hsize, decodeData, hrun]
    show Except.ok (_, SignedBlob.mk ((dataBlob d info).bytes.take _) _ _) = _
    rw [List.take_length]
    rfl
  · rw [Data.asRead, hform.asRead_eq.2]
    rfl

/-- A signed key that is valid from a leap second to the second after it. -/
def smallData : Data where
  name := ⟨[⟨.other 8, [0x61]⟩]⟩
  metaInfo := ⟨.other 2, some ⟨1500000⟩, some (.generic [0x62])⟩
  content := [0x01, 0x02]
  signature := .sha256WithRsa [0x03] (.name ⟨[.generic [0x6b]]⟩ .publisherPublicKeyDigest)
    ⟨some (⟨1483228799, 1500000000⟩, ⟨1483228800, 7⟩)⟩

/-- What `smallData` is encoded as; the bounds read `20161231T235960` and `20170101T000000`. -/
def smallDataBlob : SignedBlob where
  bytes := [0x06, 0x4f, 0x07, 0x03, 0x08, 0x01, 0x61, 0x14, 0x0b, 0x18, 0x01, 0x02, 0x19, 0x01, 0x01,
    0x1a, 0x03, 0x08, 0x01, 0x62, 0x15, 0x02, 0x01, 0x02, 0x16, 0x34, 0x1b, 0x01, 0x01, 0x1c, 0x05,
    0x07, 0x03, 0x08, 0x01, 0x6b, 0xfd, 0x00, 0xfd, 0x26, 0xfd, 0x00, 0xfe, 0x0f, 0x32, 0x30, 0x31,
    0x36, 0x31, 0x32, 0x33, 0x31, 0x54, 0x32, 0x33, 0x35, 0x39, 0x36, 0x30, 0xfd, 0x00, 0xff, 0x0f,
    0x32, 0x30, 0x31, 0x37, 0x30, 0x31, 0x30, 0x31, 0x54, 0x30, 0x30, 0x30, 0x30, 0x30, 0x30, 0x17,
    0x01, 0x03]
  signedBegin := 2
  signedEnd := 78

/-- A packet under an unknown scheme, whose description has a field after its number. -/
def foreignData : Data where
  name := ⟨[.generic [0x61]]⟩
  signature := .generic [0x03] [0x16, 0x06, 0x1b, 0x02, 0x00, 0x07, 0xff, 0x00] (some 7)

def foreignDataBlob : SignedBlob where
  bytes := [0x06, 0x14, 0x07, 0x03, 0x08, 0x01, 0x61, 0x14, 0x00, 0x15, 0x00, 0x16, 0x06, 0x1b, 0x02,
    0x00, 0x07, 0xff, 0x00, 0x17, 0x01, 0x03]
  signedBegin := 2
  signedEnd := 19

/-- A packet that is valid in a leap second in the middle of a minute. -/
def leapingData : Data where
  name := ⟨[.generic [0x61]]⟩
  signature := .sha256WithEcdsa [0x03] .absent
    ⟨some (⟨1483228730, 500000000⟩, ⟨1483228730, 1500000000⟩)⟩

/-- What `leapingData` is encoded as; the bounds read `20161231T235850` and `20161231T235851`. -/
def leapingDataBlob : SignedBlob where
  bytes := [0x06, 0x3b, 0x07, 0x03, 0x08, 0x01, 0x61, 0x14, 0x00, 0x15, 0x00, 0x16, 0x2d, 0x1b, 0x01,
    0x03, 0xfd, 0x00, 0xfd, 0x26, 0xfd, 0x00, 0xfe, 0x0f, 0x32, 0x30, 0x31, 0x36, 0x31, 0x32, 0x33,
    0x31, 0x54, 0x32, 0x33, 0x35, 0x38, 0x35, 0x30, 0xfd, 0x00, 0xff, 0x0f, 0x32, 0x30, 0x31, 0x36,
    0x31, 0x32, 0x33, 0x31, 0x54, 0x32, 0x33, 0x35, 0x38, 0x35, 0x31, 0x17, 0x01, 0x03]
  signedBegin := 2
  signedEnd := 58

theorem data_round_trip_small :
    ((WireFormat.tlv {}).encodeData smallData = .ok smallDataBlob
        ∧ (WireFormat.tlv {}).decodeData smallDataBlob.bytes
          = .ok (smallData.normalize, smallDataBlob))
      ∧ ((WireFormat.tlv {}).encodeData foreignData = .ok foreignDataBlob
        ∧ (WireFormat.tlv {}).decodeData foreignDataBlob.bytes
          = .ok (foreignData.normalize, foreignDataBlob))
      ∧ (WireFormat.tlv {}).encodeData leapingData = .ok leapingDataBlob
        ∧ (WireFormat.tlv {}).decodeData leapingDataBlob.bytes
          = .ok ({ leapingData with
            signature := .sha256WithEcdsa [0x03] .absent
              ⟨some (⟨1483228730, 0⟩, ⟨1483228731, 0⟩)⟩ }, leapingDataBlob) := by
  have hbounds : smallData.signature.HasForm := by
    refine ⟨trivial, ?_⟩
    rintro first last h
    cases h
    exact ⟨⟨by decide, by decide, by decide⟩, ⟨by decide, by decide, by decide⟩⟩
  have hleaping : leapingData.signature.HasReadableForm := by
    refine ⟨trivial, ?_⟩
    rintro first last h
    cases h
    exact ⟨⟨by decide, by decide, by decide⟩, ⟨by decide, by decide, by decide⟩⟩
  have hunknown : foreignData.signature.HasForm := by
    refine ⟨7, rfl, rfl, [0x00, 0x07], [0x1b, 0x02, 0x00, 0x07], [0xff, 0x00], rfl, ?_, ?_⟩
    · exact ⟨_, headerForm_header ElementType.signatureType 2, by decide, rfl⟩
    · exact ⟨_, headerForm_header ElementType.signatureInfo 6, by decide, rfl⟩
  have hsmall : ((WireFormat.tlv {}).encodeData smallData).toOption = some smallDataBlob := by
    decide +kernel
  have hforeign : ((WireFormat.tlv {}).encodeData foreignData).toOption = some foreignDataBlob := by
    decide +kernel
  have hencoded : ((WireFormat.tlv {}).encodeData leapingData).toOption = some leapingDataBlob := by
    decide +kernel
  obtain ⟨⟨b, hb, hdecode⟩, hnormal⟩ := data_round_trip {} smallData hbounds.asRead_eq.1
  obtain ⟨⟨b', hb', hdecode'⟩, hnormal'⟩ := data_round_trip {} foreignData hunknown.asRead_eq.1
  obtain ⟨⟨b'', hb'', hdecode''⟩, -⟩ := data_round_trip {} leapingData hleaping
  rw [hnormal hbounds] at hdecode
  rw [hnormal' hunknown] at hdecode'
  rw [hb] at hsmall
  rw [hb'] at hforeign
  rw [hb''] at hencoded
  cases hsmall
  cases hforeign
  cases hencoded
  exact ⟨⟨hb, hdecode (by decide)⟩, ⟨hb', hdecode' (by decide)⟩, hb'', hdecode'' (by decide)⟩

end Wire

end NamedData
