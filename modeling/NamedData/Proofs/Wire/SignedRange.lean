import NamedData.Proofs.Wire.SignedFields
import NamedData.Proofs.Wire.Acceptance

/-!
# Signed ranges

Writers count the signed bytes from headers that they know only once the value is written, and readers
count them from the start of the input. `SignsNamePrefix` and `SignsNameToInfo` say which bytes they are:
of an Interest the components of the name but the last, of a Data packet all from the name to the
description of the scheme. An encoding that is decoded has the range that was written, except that the
description of a scheme may be kept encoded, and end elsewhere if it is not one whole element.
-/

namespace NamedData.Wire

open Element (concat)

/-! ## What is signed -/

/-- The bytes are an Interest with a name of the given components, each of them an element. All of
these but the last are signed. -/
def SignsNamePrefix (blob : SignedBlob) (components : List Bytes) : Prop :=
  ∃ head nameHead following : Bytes,
    HeaderForm ElementType.interest (nameHead ++ (components.flatten ++ following)).length head
      ∧ HeaderForm ElementType.name components.flatten.length nameHead
      ∧ blob = ⟨head ++ (nameHead ++ (components.flatten ++ following)), (head ++ nameHead).length,
        (head ++ nameHead).length + components.dropLast.flatten.length⟩

/-- The bytes are a Data packet that starts with `name`. All from there to the end of `info` is signed,
and the bytes of the signature come next. -/
def SignsNameToInfo (blob : SignedBlob) (name info : Bytes) : Prop :=
  ∃ head between following : Bytes,
    HeaderForm ElementType.data (name ++ between ++ info ++ following).length head
      ∧ StartsWith ElementType.signatureValue following
      ∧ blob = ⟨head ++ (name ++ between ++ info ++ following), head.length,
        head.length + (name ++ between ++ info).length⟩

/-- The signed bytes of an Interest are those of the components but the last. -/
theorem SignsNamePrefix.signedPortion_eq {blob : SignedBlob} {components : List Bytes}
    (h : SignsNamePrefix blob components) : blob.signedPortion = components.dropLast.flatten := by
  obtain ⟨head, nameHead, following, -, -, hblob⟩ := h
  have hsplit : components.flatten
      = components.dropLast.flatten ++ components.getLast?.toList.flatten := by
    rw [← List.flatten_append, dropLast_append_toList_getLast?]
  have hbytes : head ++ (nameHead ++ (components.flatten ++ following)) = head ++ nameHead
      ++ (components.dropLast.flatten ++ (components.getLast?.toList.flatten ++ following)) := by
    rw [hsplit]
    simp only [List.append_assoc]
  rw [hbytes] at hblob
  exact SignedBlob.Signs.signedPortion_eq ⟨_, hblob⟩

/-- The signed bytes of a Data packet start with the name and end with the description of the scheme. -/
theorem SignsNameToInfo.exists_signedPortion {blob : SignedBlob} {name info : Bytes}
    (h : SignsNameToInfo blob name info) :
    ∃ between, blob.signedPortion = name ++ between ++ info := by
  obtain ⟨head, between, following, -, -, hblob⟩ := h
  exact ⟨between, SignedBlob.Signs.signedPortion_eq ⟨head, hblob⟩⟩

/-! ## Interests -/

theorem signsNamePrefix_interestBlob (i : Interest) (following : Bytes) :
    SignsNamePrefix (interestBlob i following) (i.name.components.map componentElement) := by
  have hflatten (components : List Component) :
      (components.map componentElement).flatten = componentElements components :=
    List.flatMap_def.symm
  refine ⟨_, _, following, headerForm_header _ _, headerForm_header _ _, ?_⟩
  simp only [interestBlob, element, nameElement, hflatten, ← List.map_dropLast, List.length_append,
    List.append_assoc]

theorem signsNamePrefix_of_encodeInterest {nonceLength : Nat} {random : Nat → UInt8} {i : Interest}
    {b : SignedBlob} (h : encodeInterest nonceLength random i = .ok b) :
    SignsNamePrefix b (i.name.components.map componentElement) := by
  obtain ⟨following, -, rfl⟩ := encodeInterest_eq_ok_iff.1 h
  exact signsNamePrefix_interestBlob i following

/-- The name of an Interest that is decoded is made of the components that the signed range goes by. -/
theorem InterestPacket.signsNamePrefix {blob : SignedBlob} {i : Interest} (h : InterestPacket blob i) :
    ∃ components : List Element, i.name = ⟨components.map Element.component⟩
      ∧ SignsNamePrefix blob (components.map Element.bytes) := by
  obtain ⟨htype, hbytes, hvalue, hname, hcomponents, hfields, -, before, hblob⟩ := h
  next e name components fields rest =>
  obtain ⟨head, hhead, -, he⟩ := e.isElement
  obtain ⟨nameHead, hnameHead, -, hn⟩ := name.isElement
  have hflatten (es : List Element) : (es.map Element.bytes).flatten = concat es :=
    List.flatMap_def.symm
  rw [HoldsElements, Element.concat_cons, hn, hcomponents, List.append_assoc] at hvalue
  have hinner : concat components.dropLast ++ (concat components.getLast?.toList ++ concat fields)
      = concat components ++ concat fields := by
    rw [← List.append_assoc, Element.concat_dropLast_append]
  rw [hinner] at hblob
  -- in front of the components stand the two headers, and nothing else
  have hbefore : before = head ++ nameHead := by
    have heq : before ++ (concat components ++ concat fields)
        = head ++ nameHead ++ (concat components ++ concat fields) := by
      rw [hblob, he, hvalue] at hbytes
      simpa only [List.append_assoc] using hbytes
    exact List.append_cancel_right heq
  refine ⟨components, hfields.name_eq, head, nameHead, concat fields, ?_, ?_, ?_⟩
  · rw [hflatten, ← hvalue, ← htype]
    exact hhead
  · rw [hflatten, ← hcomponents, ← hname]
    exact hnameHead
  · rw [hblob, hbefore, hflatten, ← List.map_dropLast, hflatten]
    simp only [List.append_assoc]

/-! ## Data packets -/

theorem signsNameToInfo_dataBlob (d : Data) (info : Bytes) :
    SignsNameToInfo (dataBlob d info) (nameElement d.name) info := by
  refine ⟨_, element ElementType.metaInfo (metaInfoValue d.metaInfo)
    ++ element ElementType.content d.content, _, headerForm_header _ _,
    startsWith_element ElementType.signatureValue d.signature.bytes, ?_⟩
  simp only [dataBlob, signedPart, element, List.append_assoc]

theorem signsNameToInfo_of_encodeData {d : Data} {b : SignedBlob} (h : encodeData d = .ok b) :
    ∃ info, encodeSignatureInfo d.signature = .ok info ∧ SignsNameToInfo b (nameElement d.name) info := by
  obtain ⟨info, hinfo, rfl⟩ := encodeData_eq_ok_iff.1 h
  exact ⟨info, hinfo, signsNameToInfo_dataBlob d info⟩

/-- The signed elements of a packet start with its name and end with the description of the scheme. -/
theorem DataFields.exists_signed {signed unsigned rest : List Element} {d : Data}
    (h : DataFields unsigned (signed ++ unsigned) d rest) :
    ∃ (name info : Element) (between : List Element), signed = name :: (between ++ [info])
      ∧ name.type = ElementType.name ∧ HoldsName name d.name ∧ ∃ s, DescribesScheme info.bytes info s := by
  generalize hes : signed ++ unsigned = es at h
  obtain ⟨hname, hmetaInfo, hcontent, hscheme, -, -⟩ := h
  next info _ _ _ _ signature =>
  obtain ⟨name, rfl, htype, hholds⟩ := hname
  obtain ⟨between, rfl⟩ := hcontent.suffix.trans hmetaInfo.suffix
  refine ⟨name, info, between, ?_, htype, hholds, signature, hscheme⟩
  refine List.append_cancel_right (hes.trans ?_)
  simp only [List.cons_append, List.append_assoc, List.nil_append]

theorem DataPacket.signsNameToInfo {blob : SignedBlob} {d : Data} (h : DataPacket blob d) :
    ∃ name info : Element, name.type = ElementType.name ∧ HoldsName name d.name
      ∧ info.type = ElementType.signatureInfo ∧ SignsNameToInfo blob name.bytes info.bytes := by
  obtain ⟨htype, hbytes, hvalue, hfields, -, before, hblob⟩ := h
  next e signed unsigned rest =>
  obtain ⟨name, info, between, rfl, hname, hholds, s, hinfo, -⟩ := hfields.exists_signed
  obtain ⟨bytes, rfl, hbytesType⟩ := hfields.exists_bytes
  obtain ⟨head, hhead, -, he⟩ := e.isElement
  have hsigned : concat (name :: (between ++ [info])) = name.bytes ++ concat between ++ info.bytes := by
    simp only [Element.concat_cons, Element.concat_append, Element.concat_nil, List.append_nil,
      List.append_assoc]
  rw [HoldsElements, Element.concat_append, hsigned] at hvalue
  rw [hsigned] at hblob
  have hbefore : before = head := by
    rw [hblob, he, hvalue] at hbytes
    exact List.append_cancel_right hbytes
  refine ⟨name, info, hname, hholds, hinfo, head, concat between, _, ?_, ?_, hbefore ▸ hblob⟩
  · rw [← hvalue, ← htype]
    exact hhead
  · exact hbytesType ▸ bytes.startsWith.append (concat rest)

/-- Of every Interest that is encoded, and of every one that is decoded, all components of the name but
the last are signed. Of every Data packet that is decoded all from the name to the description of the
scheme is signed, and of every one that is encoded all from the name to what is written for the
description, which is one element unless it is kept encoded. If an encoding within the size limit is
decoded, its signed range is the one that was written, but may end elsewhere if a description that is
kept encoded is not a whole one; a whole link and a whole description are sure to be decoded. -/
theorem signed_ranges (config : PacketConfig) :
    (∀ random i b, (WireFormat.tlv config).encodeInterest random i = .ok b →
      SignsNamePrefix b (i.name.components.map componentElement)
        ∧ b.signedPortion = componentElements i.name.components.dropLast
        ∧ (b.bytes.length ≤ config.maxPacketSize.toNat →
          (WholeLink i → ∃ i', (WireFormat.tlv config).decodeInterest b.bytes = .ok (i', b))
            ∧ ∀ i' blob, (WireFormat.tlv config).decodeInterest b.bytes = .ok (i', blob) → blob = b))
      ∧ (∀ input i blob, (WireFormat.tlv config).decodeInterest input = .ok (i, blob) →
        ∃ components : List Element, i.name = ⟨components.map Element.component⟩
          ∧ SignsNamePrefix blob (components.map Element.bytes)
          ∧ blob.signedPortion = concat components.dropLast)
      ∧ (∀ d b, (WireFormat.tlv config).encodeData d = .ok b →
        (∃ info between, encodeSignatureInfo d.signature = .ok info
          ∧ SignsNameToInfo b (nameElement d.name) info
          ∧ b.signedPortion = nameElement d.name ++ between ++ info
          ∧ ((∃ value, info = element ElementType.signatureInfo value)
            ∨ ∃ bytes code, d.signature = .generic bytes info code))
        ∧ (b.bytes.length ≤ config.maxPacketSize.toNat →
          (d.signature.HasWholeInfo →
            (∀ period, d.signature.validity? = some period → period.IsUnsigned) →
              ∃ d', (WireFormat.tlv config).decodeData b.bytes = .ok (d', b))
            ∧ ∀ d' blob, (WireFormat.tlv config).decodeData b.bytes = .ok (d', blob) →
              blob.bytes = b.bytes ∧ blob.signedBegin = b.signedBegin
                ∧ (blob.signedEnd = b.signedEnd ↔ d.signature.HasWholeInfo)))
      ∧ ∀ input d blob, (WireFormat.tlv config).decodeData input = .ok (d, blob) →
        ∃ (name info : Element) (between : Bytes), name.type = ElementType.name ∧ HoldsName name d.name
          ∧ info.type = ElementType.signatureInfo ∧ SignsNameToInfo blob name.bytes info.bytes
          ∧ blob.signedPortion = name.bytes ++ between ++ info.bytes := by
  have hlt {input : Bytes} (hmax : input.length ≤ config.maxPacketSize.toNat) :
      input.length < UInt64.size := Nat.lt_of_le_of_lt hmax config.maxPacketSize.toNat_lt
  refine ⟨?_, ?_, ?_, ?_⟩
  · intro random i b hencode
    have hsigns := signsNamePrefix_of_encodeInterest hencode
    refine ⟨hsigns, ?_, fun hmax => ⟨fun hlink => ?_, fun i' blob hdecode => ?_⟩⟩
    · rw [hsigns.signedPortion_eq, ← List.map_dropLast]
      exact List.flatMap_def.symm
    · exact ⟨_, withinSize_eq_ok_iff.2
        ⟨hmax, decodeInterest_asRead_of_encodeInterest hlink hencode (hlt hmax)⟩⟩
    · obtain ⟨-, hread⟩ := withinSize_eq_ok_iff.1 hdecode
      exact (decodeInterest_of_encodeInterest_eq_ok hencode (hlt hmax) hread).1
  · intro input i blob hdecode
    obtain ⟨hmax, hread⟩ := withinSize_eq_ok_iff.1 hdecode
    obtain ⟨hpacket, -⟩ := (decodeInterest_eq_ok_iff (hlt hmax)).1 hread
    obtain ⟨components, hname, hsigns⟩ := hpacket.signsNamePrefix
    refine ⟨components, hname, hsigns, ?_⟩
    rw [hsigns.signedPortion_eq, ← List.map_dropLast]
    exact List.flatMap_def.symm
  · intro d b hencode
    refine ⟨?_, fun hmax => ⟨fun hwhole hunsigned => ?_, fun d' blob hdecode => ?_⟩⟩
    · obtain ⟨info, hinfo, hsigns⟩ := signsNameToInfo_of_encodeData hencode
      obtain ⟨between, hportion⟩ := hsigns.exists_signedPortion
      exact ⟨info, between, hinfo, hsigns, hportion, (writesScheme_of_encode hinfo).element_or_generic⟩
    · obtain ⟨d', hread⟩ := (decodeData_of_encodeData_iff hencode (hlt hmax) hunsigned).2 hwhole
      exact ⟨d', withinSize_eq_ok_iff.2 ⟨hmax, hread⟩⟩
    · obtain ⟨-, hread⟩ := withinSize_eq_ok_iff.1 hdecode
      exact signedRange_of_encodeData hencode (hlt hmax) hread
  · intro input d blob hdecode
    obtain ⟨hmax, hread⟩ := withinSize_eq_ok_iff.1 hdecode
    obtain ⟨hpacket, -⟩ := (decodeData_eq_ok_iff (hlt hmax)).1 hread
    obtain ⟨name, info, htype, hname, hinfo, hsigns⟩ := hpacket.signsNameToInfo
    obtain ⟨between, hportion⟩ := hsigns.exists_signedPortion
    exact ⟨name, info, between, htype, hname, hinfo, hsigns, hportion⟩

/-- An Interest with three components. -/
def deepInterest : Interest where
  name := ⟨[.generic [0x61], .generic [0x62], .generic [0x63]]⟩
  nonce := [1, 2, 3, 4]

def deepInterestBlob : SignedBlob where
  bytes := [0x05, 0x15, 0x07, 0x09, 0x08, 0x01, 0x61, 0x08, 0x01, 0x62, 0x08, 0x01, 0x63, 0x09, 0x02,
    0x12, 0x00, 0x0a, 0x04, 0x01, 0x02, 0x03, 0x04]
  signedBegin := 4
  signedEnd := 10

/-- Two of three components are signed, and a description that is kept encoded is read where it was
written if it is a whole one. -/
theorem signed_ranges_deep :
    (WireFormat.tlv {}).encodeInterest (fun _ => 0) deepInterest = .ok deepInterestBlob
      ∧ deepInterestBlob.signedPortion = componentElements [.generic [0x61], .generic [0x62]]
      ∧ (∃ i', (WireFormat.tlv {}).decodeInterest deepInterestBlob.bytes = .ok (i', deepInterestBlob))
      ∧ (WireFormat.tlv {}).encodeData wrappedData = .ok wrappedDataBlob
      ∧ wrappedData.signature.HasWholeInfo := by
  have hencode : (WireFormat.tlv {}).encodeInterest (fun _ => 0) deepInterest = .ok deepInterestBlob :=
    rfl
  have hencode' : (WireFormat.tlv {}).encodeData wrappedData = .ok wrappedDataBlob := rfl
  have hdecode : (WireFormat.tlv {}).decodeData wrappedDataBlob.bytes
      = .ok ({ wrappedData with signature := .hmacWithSha256 [0x03] .absent }, wrappedDataBlob) :=
    eq_ok_of_toOption (by decide +kernel)
  obtain ⟨hinterest, -, hdata, -⟩ := signed_ranges {}
  obtain ⟨-, hportion, hagree⟩ := hinterest _ _ _ hencode
  obtain ⟨-, hagree'⟩ := hdata _ _ hencode'
  obtain ⟨-, -, hiff⟩ := (hagree' (by decide)).2 _ _ hdecode
  exact ⟨hencode, hportion, (hagree (by decide)).1 (.inl rfl), hencode', hiff.1 rfl⟩

/-- A packet whose description of the scheme is kept encoded with more behind it: an empty element of
the type of the signature's bytes, and a header that takes in the bytes that are written after it. -/
def trailedInfo : Data where
  name := ⟨[.generic [0x61]]⟩
  signature := .generic [0x01] [0x16, 0x03, 0x1b, 0x01, 0xc8, 0x17, 0x00, 0xf0, 0x03] (some 200)

def trailedInfoBlob : SignedBlob where
  bytes := [0x06, 0x15, 0x07, 0x03, 0x08, 0x01, 0x61, 0x14, 0x00, 0x15, 0x00, 0x16, 0x03, 0x1b, 0x01,
    0xc8, 0x17, 0x00, 0xf0, 0x03, 0x17, 0x01, 0x01]
  signedBegin := 2
  signedEnd := 20

/-- The range that is written goes on behind the description, and the one that is read does not. -/
theorem trailedInfo_signedEnd :
    (WireFormat.tlv {}).encodeData trailedInfo = .ok trailedInfoBlob
      ∧ (∃ d', (WireFormat.tlv {}).decodeData trailedInfoBlob.bytes
        = .ok (d', { trailedInfoBlob with signedEnd := 16 }))
      ∧ trailedInfoBlob.signedEnd ≠ 16 := by
  refine ⟨rfl, ⟨{ trailedInfo with
    signature := .generic [] [0x16, 0x03, 0x1b, 0x01, 0xc8] (some 200) }, ?_⟩, by decide⟩
  exact eq_ok_of_toOption (by decide +kernel)

end NamedData.Wire
