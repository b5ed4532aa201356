import NamedData.Proofs.Wire.DataGrammar
import NamedData.Proofs.Wire.InterestGrammar

/-!
# What is encoded is decoded

Two fields of packets hold elements that are encoded already, the link of an Interest and the
description of a scheme without a name, and both are written as they are. An encoded packet is decoded
from all of its bytes, with the same link and signed range, if and only if these fields hold whole
elements of the right kind. If they hold other bytes, it may still be decoded, and then what was written
in front of them is what is read.
-/

namespace NamedData

/-- If the description of the scheme is kept encoded, it is one element that describes a scheme. -/
def Signature.HasWholeInfo : Signature → Prop
  | generic _ info _ => ∃ e s, info = Wire.Element.bytes e ∧ Wire.DescribesScheme info e s
  | digestSha256 _ => True
  | hmacWithSha256 _ _ => True
  | sha256WithRsa _ _ _ => True
  | sha256WithEcdsa _ _ _ => True

namespace Wire

open Element (concat)

/-- The element that is written for a value. -/
def Element.written (type : UInt64) (value : Bytes) (h : value.length < UInt64.size) : Element :=
  ⟨type, value, element type value, _, headerForm_header type _, h, rfl⟩

/-- What is written for a value starts with one element, which is all of it. -/
theorem Element.eq_written {type : UInt64} {value rest : Bytes} {e : Element}
    (hsize : (element type value).length < UInt64.size) (h : element type value = e.bytes ++ rest) :
    e = written type value (Nat.lt_of_le_of_lt (length_le_element type value) hsize) :=
  (unique (h.symm.trans (List.append_nil _).symm)).1

/-! ## Interests -/

/-- The link that is read is one whole Data packet, or there is none. -/
theorem InterestPacket.wholeLink {blob : SignedBlob} {i : Interest} (h : InterestPacket blob i) :
    WholeLink i := by
  obtain ⟨-, -, -, -, -, ⟨-, -, -, -, hlink, -, -⟩, -, -⟩ := h
  cases hlink with
  | @some e _ bytes htype hbytes =>
    have helement : IsElement ElementType.data e.bytes := ⟨e.value, htype ▸ e.isElement⟩
    rw [← hbytes] at helement
    exact .inr helement
  | none => exact .inl rfl

theorem decodeInterest_of_encodeInterest_iff {nonceLength : Nat} {random : Nat → UInt8} {i : Interest}
    {b : SignedBlob} (h : encodeInterest nonceLength random i = .ok b)
    (hsize : b.bytes.length < UInt64.size) :
    (∃ i', decodeInterest b.bytes = .ok (i', b) ∧ i'.link = i.link) ↔ WholeLink i := by
  constructor
  · rintro ⟨i', hdecode, hlink⟩
    have hwhole := ((decodeInterest_eq_ok_iff hsize).1 hdecode).1.wholeLink
    rw [WholeLink, hlink] at hwhole
    exact hwhole
  · intro hlink
    exact ⟨_, decodeInterest_asRead_of_encodeInterest hlink h hsize, rfl⟩

/-- The selectors and the nonce are written before the link. -/
theorem exists_of_interestTail {i : Interest} {nonce following : Bytes}
    (h : interestTail i nonce = .ok following) : ∃ selectors after,
      selectorsElement? i = .ok selectors
        ∧ following = selectors ++ (element ElementType.nonce nonce ++ after) := by
  obtain ⟨selectors, hselectors, hfollowing⟩ := exists_of_bind_eq_ok h
  cases hfollowing
  simp only [List.append_assoc]
  exact ⟨selectors, _, hselectors, rfl⟩

/-- What is read of an Interest up to its nonce does not depend on what follows the nonce. -/
theorem Reader.interest_eq_ok {i i' : Interest} {selectors nonce after : Bytes}
    {signedBegin signedEnd : Nat} {blob : SignedBlob} {c : Cursor}
    (hselectors : selectorsElement? i = .ok selectors)
    (hblob : blob = interestBlob i (selectors ++ (element ElementType.nonce nonce ++ after)))
    (hsize : blob.bytes.length < UInt64.size)
    (hread : interest.run blob.bytes = .ok ((i', signedBegin, signedEnd), c)) :
    signedBegin = blob.signedBegin ∧ signedEnd = blob.signedEnd ∧ i'.name = i.name.normalize
      ∧ i'.exclude = i.exclude.asRead ∧ i'.nonce = nonce := by
  subst hblob
  have hafter : StartsIn [ElementType.nonce] (element ElementType.nonce nonce ++ after) :=
    .inr ⟨_, List.mem_singleton_self _, (startsWith_element _ _).append after⟩
  obtain ⟨found, hfound, hgetD⟩ := Reads.selectorsElement? hselectors hafter (by decide)
  obtain ⟨c₁, hbody⟩ := Reads.nested_eq_ok (headerForm_header _ _) hsize hread
  have hname := (Reads.nameRange i.name).next_eq_ok List.length_append hsize hbody
  have hrest := hfound.next_eq_ok
    (by simp only [interestBlob, element, List.length_append, Nat.add_assoc]) hsize hname
  have hnonce := (Reads.blob (headerForm_header ElementType.nonce nonce.length)).next_eq_ok
    (by simp only [interestBlob, element, List.length_append, Nat.add_assoc]) hsize hrest
  -- whatever the other fields are, they are put beside those that are known
  obtain ⟨scope, c₂, -, hnext⟩ := bind_eq_ok_iff.1 hnonce
  obtain ⟨lifetime, c₃, -, hnext⟩ := bind_eq_ok_iff.1 hnext
  obtain ⟨link, c₄, -, hnext⟩ := bind_eq_ok_iff.1 hnext
  obtain ⟨selected, c₅, -, hpure⟩ := bind_eq_ok_iff.1 hnext
  cases hpure
  refine ⟨rfl, rfl, rfl, ?_, rfl⟩
  rw [hgetD]
  rfl

/-- An Interest that is decoded from an encoding, whatever was taken for the link, is decoded from all
of it, and has the signed range, the name, the exclude and the nonce that were written. -/
theorem decodeInterest_of_encodeInterest_eq_ok {nonceLength : Nat} {random : Nat → UInt8}
    {i i' : Interest} {b blob : SignedBlob} (h : encodeInterest nonceLength random i = .ok b)
    (hsize : b.bytes.length < UInt64.size) (hdecode : decodeInterest b.bytes = .ok (i', blob)) :
    blob = b ∧ i'.name = i.name.normalize ∧ i'.exclude = i.exclude.asRead
      ∧ i'.nonce = sentNonce nonceLength random i := by
  obtain ⟨following, htail, rfl⟩ := encodeInterest_eq_ok_iff.1 h
  obtain ⟨selectors, after, hselectors, hfollowing⟩ := exists_of_interestTail htail
  obtain ⟨e, hread, hbytes, rest, hinput⟩ :=
    (run_packet_eq_ok_iff Reader.AcceptsElement.interest hsize).1 hdecode
  have hrun := (Reader.AcceptsElement.interest.run_eq_ok_iff (c := ⟨e.bytes.length, rest⟩) hsize).2
    ⟨e, hread, hbytes ▸ hinput, rfl⟩
  obtain ⟨hbegin, hend, hfields⟩ := Reader.interest_eq_ok hselectors (by rw [hfollowing]) hsize hrun
  -- the input is one element, so it is the one that the packet takes up
  obtain rfl := Element.eq_written hsize (hbytes ▸ hinput)
  obtain ⟨bytes, signedBegin, signedEnd⟩ := blob
  cases hbytes
  cases hbegin
  cases hend
  exact ⟨rfl, hfields⟩

/-! ## Data packets -/

/-- After the first of some elements the others are left. -/
theorem Required.concat_rest {α : Type} {type : UInt64} {P : Element → α → Prop}
    {es rest : List Element} {a : α} {e : Element} {after : Bytes} (h : Required type P es a rest)
    (heq : concat es = e.bytes ++ after) : concat rest = after := by
  obtain ⟨e', rfl, -⟩ := h
  exact (Element.unique heq).2

theorem Optional.concat_rest {α : Type} {type : UInt64} {P : Element → α → Prop}
    {es rest : List Element} {a : Option α} {e : Element} {after : Bytes}
    (h : Optional type P es a rest) (htype : e.type = type) (heq : concat es = e.bytes ++ after) :
    concat rest = after := by
  cases h with
  | some => exact (Element.unique heq).2
  | none hother =>
    obtain ⟨es, rfl, -⟩ := Element.exists_cons_of_concat heq
    exact absurd htype (hother e rfl)

/-- After the fields that were written before it, the description of the scheme comes next. -/
theorem DataFields.exists_info {d d' : Data} {info after : Bytes} {es unsigned rest : List Element}
    (h : DataFields unsigned es d' rest) (hes : concat es = signedPart d info ++ after)
    (hsize : (signedPart d info).length < UInt64.size) :
    ∃ e s, DescribesScheme e.bytes e s ∧ e.bytes ++ concat unsigned = info ++ after := by
  obtain ⟨hname, hmetaInfo, hcontent, hscheme, -, -⟩ := h
  next es₁ es₂ e bytes name metaInfo content signature =>
  have hle₁ := length_le_element ElementType.name (componentElements d.name.components)
  have hle₂ := length_le_element ElementType.metaInfo (metaInfoValue d.metaInfo)
  have hle₃ := length_le_element ElementType.content d.content
  simp only [signedPart, nameElement, List.length_append] at hsize
  have hwritten : concat es
      = (Element.written ElementType.name (componentElements d.name.components) (by omega)).bytes
        ++ ((Element.written ElementType.metaInfo (metaInfoValue d.metaInfo) (by omega)).bytes
          ++ ((Element.written ElementType.content d.content (by omega)).bytes
            ++ (info ++ after))) := by
    rw [hes]
    simp only [signedPart, nameElement, Element.written, List.append_assoc]
  have hrest := hcontent.concat_rest rfl (hmetaInfo.concat_rest rfl (hname.concat_rest hwritten))
  rw [Element.concat_cons] at hrest
  exact ⟨e, signature, hscheme, hrest⟩

/-- A packet is decoded with the signature that is decoded from its two elements. -/
theorem decodeData_dataBlob {d : Data} {info : Bytes} {signature : Signature}
    (h : IsElement ElementType.signatureInfo info)
    (hdecode : decodeSignature info (element ElementType.signatureValue d.signature.bytes)
      = .ok signature) (hsize : (dataBlob d info).bytes.length < UInt64.size) :
    decodeData (dataBlob d info).bytes = .ok ({ d.normalize with signature }, dataBlob d info) := by
  have hrun := (Reader.Reads.dataWith h hdecode).run_whole hsize
  rw [decodeData, hrun]
  show Except.ok (_, SignedBlob.mk ((dataBlob d info).bytes.take _) _ _) = _
  rw [List.take_length]

/-- A locator that has been written has a form on the wire. -/
theorem KeyLocator.hasForm_of_written {type : UInt64} {k : KeyLocator} {written : Bytes}
    (h : keyLocatorElement? type k = .ok written) : k.HasForm := by
  cases k with
  | absent | name | digest => trivial
  | key | certificate => cases h

/-- What the description of a scheme is written as. -/
inductive WritesScheme : Signature → Bytes → Prop
  | digestSha256 {bytes : Bytes} : WritesScheme (.digestSha256 bytes) (schemeElement .digestSha256 [] [])
  | hmacWithSha256 {bytes locator : Bytes} {k : KeyLocator}
    (hlocator : keyLocatorElement? ElementType.keyLocator k = .ok locator) :
    WritesScheme (.hmacWithSha256 bytes k) (schemeElement .hmacWithSha256 locator [])
  | sha256WithRsa {bytes locator : Bytes} {k : KeyLocator} {period : ValidityPeriod}
    (hlocator : keyLocatorElement? ElementType.keyLocator k = .ok locator) :
    WritesScheme (.sha256WithRsa bytes k period)
      (schemeElement .sha256WithRsa locator (validityElement? period))
  | sha256WithEcdsa {bytes locator : Bytes} {k : KeyLocator} {period : ValidityPeriod}
    (hlocator : keyLocatorElement? ElementType.keyLocator k = .ok locator) :
    WritesScheme (.sha256WithEcdsa bytes k period)
      (schemeElement .sha256WithEcdsa locator (validityElement? period))
  | generic {bytes info : Bytes} {code : Option UInt64} : WritesScheme (.generic bytes info code) info

theorem writesScheme_of_encode {s : Signature} {info : Bytes} (h : encodeSignatureInfo s = .ok info) :
    WritesScheme s info := by
  cases s with
  | digestSha256 bytes =>
    cases h
    exact .digestSha256
  | hmacWithSha256 bytes k =>
    obtain ⟨locator, hlocator, hinfo⟩ := exists_of_bind_eq_ok h
    cases hinfo
    exact .hmacWithSha256 hlocator
  | sha256WithRsa bytes k period =>
    obtain ⟨locator, hlocator, hinfo⟩ := exists_of_bind_eq_ok h
    cases hinfo
    exact .sha256WithRsa hlocator
  | sha256WithEcdsa bytes k period =>
    obtain ⟨locator, hlocator, hinfo⟩ := exists_of_bind_eq_ok h
    cases hinfo
    exact .sha256WithEcdsa hlocator
  | generic bytes info' code =>
    rw [encodeSignatureInfo] at h
    split at h
    · cases h
    · cases h
      exact .generic

/-- A signature that has been written has a form on the wire, or its description is kept encoded. -/
theorem WritesScheme.hasReadableForm {s : Signature} {info : Bytes} (h : WritesScheme s info)
    (hunsigned : ∀ period, s.validity? = some period → period.IsUnsigned) :
    s.HasReadableForm ∨ ∃ bytes code, s = .generic bytes info code := by
  cases h with
  | digestSha256 => exact .inl trivial
  | hmacWithSha256 hlocator => exact .inl (KeyLocator.hasForm_of_written hlocator)
  | sha256WithRsa hlocator | sha256WithEcdsa hlocator =>
    exact .inl ⟨KeyLocator.hasForm_of_written hlocator, hunsigned _ rfl⟩
  | generic => exact .inr ⟨_, _, rfl⟩

/-- The description of a scheme is written as one element, or is kept encoded. -/
theorem WritesScheme.element_or_generic {s : Signature} {info : Bytes} (h : WritesScheme s info) :
    (∃ value, info = element ElementType.signatureInfo value)
      ∨ ∃ bytes code, s = .generic bytes info code := by
  cases h with
  | digestSha256 | hmacWithSha256 | sha256WithRsa | sha256WithEcdsa => exact .inl ⟨_, rfl⟩
  | generic => exact .inr ⟨_, _, rfl⟩

/-- A description that is written as a whole is one element. -/
theorem WritesScheme.exists_element {s : Signature} {info : Bytes} (h : WritesScheme s info)
    (hwhole : s.HasWholeInfo) (hsize : info.length < UInt64.size) : ∃ e : Element, info = e.bytes := by
  rcases h.element_or_generic with ⟨value, rfl⟩ | ⟨bytes, code, rfl⟩
  · have hvalue := length_le_element ElementType.signatureInfo value
    exact ⟨.written _ value (by omega), rfl⟩
  · obtain ⟨e, s, he, -⟩ := hwhole
    exact ⟨e, he⟩

/-- A description that is read as it was written is a whole one. -/
theorem WritesScheme.hasWholeInfo {s s' : Signature} {e : Element} {info : Bytes}
    (h : WritesScheme s info) (he : info = e.bytes) (hread : DescribesScheme e.bytes e s') :
    s.HasWholeInfo := by
  cases h with
  | digestSha256 | hmacWithSha256 | sha256WithRsa | sha256WithEcdsa => trivial
  | generic => exact ⟨e, s', he, he ▸ hread⟩

/-- A Data packet that is decoded from an encoding is decoded from all of it, with the signed range from
where it was written, up to the end of the element that is read for the description of the scheme. -/
theorem decodeData_dataBlob_eq_ok {d d' : Data} {info : Bytes} {blob : SignedBlob}
    (hsize : (dataBlob d info).bytes.length < UInt64.size)
    (hdecode : decodeData (dataBlob d info).bytes = .ok (d', blob)) :
    blob.bytes = (dataBlob d info).bytes ∧ blob.signedBegin = (dataBlob d info).signedBegin
      ∧ ∃ e s after, DescribesScheme (Element.bytes e) e s
        ∧ e.bytes ++ after = info ++ element ElementType.signatureValue d.signature.bytes
        ∧ blob.signedEnd + after.length = (dataBlob d info).bytes.length := by
  obtain ⟨⟨-, hbytes, hvalue, hfields, -, hsigned⟩, rest', hinput⟩ :=
    (decodeData_eq_ok_iff hsize).1 hdecode
  next e signed unsigned rest =>
  obtain rfl := Element.eq_written hsize (hbytes ▸ hinput)
  have hes : concat (signed ++ unsigned)
      = signedPart d info ++ element ElementType.signatureValue d.signature.bytes := hvalue.symm
  have hpart : (signedPart d info).length < UInt64.size := by
    have hle := length_le_element ElementType.data
      (signedPart d info ++ element ElementType.signatureValue d.signature.bytes)
    rw [List.length_append] at hle
    exact Nat.lt_of_le_of_lt (Nat.le_trans (Nat.le_add_right _ _) hle) hsize
  obtain ⟨e', s, hscheme, heq⟩ := hfields.exists_info hes hpart
  rw [Element.concat_append] at hes
  obtain ⟨before, rfl⟩ := hsigned
  obtain rfl : before = header ElementType.data
      (signedPart d info ++ element ElementType.signatureValue d.signature.bytes).length := by
    rw [hes] at hbytes
    exact List.append_cancel_right hbytes
  refine ⟨hbytes, rfl, e', s, concat unsigned, hscheme, heq, ?_⟩
  rw [← show _ = (dataBlob d info).bytes from hbytes]
  simp only [List.length_append, Nat.add_assoc]

/-- The signed range that is read begins where the one that was written does. It ends there if and only
if the description of the scheme is a whole one. -/
theorem signedRange_of_encodeData {d d' : Data} {b blob : SignedBlob} (hencode : encodeData d = .ok b)
    (hsize : b.bytes.length < UInt64.size) (hdecode : decodeData b.bytes = .ok (d', blob)) :
    blob.bytes = b.bytes ∧ blob.signedBegin = b.signedBegin
      ∧ (blob.signedEnd = b.signedEnd ↔ d.signature.HasWholeInfo) := by
  obtain ⟨info, hinfo, rfl⟩ := encodeData_eq_ok_iff.1 hencode
  obtain ⟨hbytes, hbegin, e, s, after, hscheme, heq, hend⟩ := decodeData_dataBlob_eq_ok hsize hdecode
  refine ⟨hbytes, hbegin, ?_⟩
  -- either end is told by how much comes behind it
  have hwritten : (dataBlob d info).signedEnd
      + (element ElementType.signatureValue d.signature.bytes).length
        = (dataBlob d info).bytes.length := by
    simp only [dataBlob, element, List.length_append, Nat.add_assoc]
  have hlength := congrArg List.length heq
  rw [List.length_append, List.length_append] at hlength
  have hinfoLength := length_signature_le d info
  constructor
  · intro hsame
    obtain ⟨rfl, -⟩ := List.append_inj heq (by omega)
    exact (writesScheme_of_encode hinfo).hasWholeInfo rfl hscheme
  · intro hwhole
    obtain ⟨e', rfl⟩ := (writesScheme_of_encode hinfo).exists_element hwhole (by omega)
    obtain ⟨rfl, -⟩ := Element.unique heq
    omega

theorem decodeData_of_encodeData_iff {d : Data} {b : SignedBlob} (h : encodeData d = .ok b)
    (hsize : b.bytes.length < UInt64.size)
    (hunsigned : ∀ period, d.signature.validity? = some period → period.IsUnsigned) :
    (∃ d', decodeData b.bytes = .ok (d', b)) ↔ d.signature.HasWholeInfo := by
  constructor
  · rintro ⟨d', hdecode⟩
    obtain ⟨-, -, hend⟩ := signedRange_of_encodeData h hsize hdecode
    exact hend.1 rfl
  · intro hwhole
    obtain ⟨info, hinfo, rfl⟩ := encodeData_eq_ok_iff.1 h
    have hparts := length_signature_le d info
    rcases (writesScheme_of_encode hinfo).hasReadableForm hunsigned with hform | ⟨bytes, code, hgeneric⟩
    · obtain ⟨info', hencode, hdescription⟩ := exists_description_asRead hform
      cases hinfo.symm.trans hencode
      obtain ⟨helement, hscheme⟩ := hdescription (by omega)
      have hbytes : (element ElementType.signatureValue d.signature.bytes).length < UInt64.size := by
        omega
      exact ⟨_, decodeData_dataBlob helement (decodeSignature_of_scheme hscheme hbytes) hsize⟩
    · rw [hgeneric] at hwhole
      obtain ⟨e, s, rfl, hscheme⟩ := hwhole
      have helement : IsElement ElementType.signatureInfo e.bytes := by
        obtain ⟨htype, -⟩ := hscheme
        exact ⟨e.value, htype ▸ e.isElement⟩
      have hread := (Reader.scheme_eq_ok_iff (by omega)).2
        ⟨e, [], (List.append_nil _).symm, hscheme⟩
      exact ⟨_, decodeData_dataBlob helement (decodeSignature_of_scheme hread (by omega)) hsize⟩

/-! ## Encoding and decoding -/

/-- An Interest that is encoded within the size limit is decoded from all of the encoding, with the
link that it has, if and only if the link is one whole Data packet or missing. A Data packet that is
encoded within the size limit is decoded from all of the encoding if and only if the description of its
scheme, where that is kept encoded, is one whole element that describes a scheme; the bounds of its
validity period must be in years of four digits. -/
theorem encoded_is_decoded_iff (config : PacketConfig) :
    (∀ random i b, (WireFormat.tlv config).encodeInterest random i = .ok b →
      b.bytes.length ≤ config.maxPacketSize.toNat →
        ((∃ i', (WireFormat.tlv config).decodeInterest b.bytes = .ok (i', b) ∧ i'.link = i.link)
          ↔ WholeLink i))
      ∧ ∀ d b, (WireFormat.tlv config).encodeData d = .ok b →
        b.bytes.length ≤ config.maxPacketSize.toNat →
        (∀ period, d.signature.validity? = some period → period.IsUnsigned) →
          ((∃ d', (WireFormat.tlv config).decodeData b.bytes = .ok (d', b))
            ↔ d.signature.HasWholeInfo) := by
  have hmax := config.maxPacketSize.toNat_lt
  constructor
  · intro random i b hencode hsize
    show (∃ i', withinSize config decodeInterest b.bytes = .ok (i', b) ∧ i'.link = i.link) ↔ _
    rw [withinSize_of_le hsize]
    exact decodeInterest_of_encodeInterest_iff hencode (Nat.lt_of_le_of_lt hsize hmax)
  · intro d b hencode hsize hunsigned
    show (∃ d', withinSize config decodeData b.bytes = .ok (d', b)) ↔ _
    rw [withinSize_of_le hsize]
    exact decodeData_of_encodeData_iff hencode (Nat.lt_of_le_of_lt hsize hmax) hunsigned

/-- A packet under a keyed digest whose description is kept encoded. -/
def wrappedData : Data where
  name := ⟨[.generic [0x61]]⟩
  signature := .generic [0x03] [0x16, 0x03, 0x1b, 0x01, 0x04] none

def wrappedDataBlob : SignedBlob where
  bytes := [0x06, 0x11, 0x07, 0x03, 0x08, 0x01, 0x61, 0x14, 0x00, 0x15, 0x00, 0x16, 0x03, 0x1b, 0x01,
    0x04, 0x17, 0x01, 0x03]
  signedBegin := 2
  signedEnd := 16

theorem encoded_is_decoded_iff_whole :
    (∃ i', (WireFormat.tlv {}).decodeInterest smallInterestBlob.bytes = .ok (i', smallInterestBlob)
        ∧ i'.link = [0x06, 0x00])
      ∧ ∃ d', (WireFormat.tlv {}).decodeData wrappedDataBlob.bytes = .ok (d', wrappedDataBlob) := by
  obtain ⟨hinterest, hdata⟩ := encoded_is_decoded_iff {}
  have hlink : WholeLink smallInterest :=
    .inr ⟨[], [0x06, 0x00], headerForm_header ElementType.data 0, by decide, rfl⟩
  have hinfo : wrappedData.signature.HasWholeInfo := by
    let number := Element.written ElementType.signatureType [0x04] (by decide)
    have hnone : KeyLocatorField.Fills [] .absent := ⟨[], [], rfl, ⟨none, .none nofun, rfl⟩, nofun⟩
    have hcode : HoldsInteger number 4 := ⟨by decide, rfl⟩
    exact ⟨.written ElementType.signatureInfo [0x1b, 0x01, 0x04] (by decide),
      .hmacWithSha256 [] .absent, rfl, .mk rfl rfl rfl hcode (.hmacWithSha256 hnone)⟩
  exact ⟨(hinterest (fun _ => 7) smallInterest smallInterestBlob rfl (by decide)).2 hlink,
    (hdata wrappedData wrappedDataBlob rfl (by decide) nofun).2 hinfo⟩

/-- An Interest whose link is a first byte only, which announces eight more. -/
def strayLink : Interest where
  name := ⟨[.generic [0x61]]⟩
  nonce := [1, 2, 3, 4]
  link := [0xff]

def strayLinkBlob : SignedBlob where
  bytes := [0x05, 0x10, 0x07, 0x03, 0x08, 0x01, 0x61, 0x09, 0x02, 0x12, 0x00, 0x0a, 0x04, 0x01, 0x02, 0x03,
    0x04, 0xff]
  signedBegin := 4
  signedEnd := 4

/-- A packet whose description of the scheme is an element of another type. -/
def strayInfo : Data where
  name := ⟨[.generic [0x61]]⟩
  signature := .generic [0x03] [0x15, 0x00] none

def strayInfoBlob : SignedBlob where
  bytes := [0x06, 0x0e, 0x07, 0x03, 0x08, 0x01, 0x61, 0x14, 0x00, 0x15, 0x00, 0x15, 0x00, 0x17, 0x01, 0x03]
  signedBegin := 2
  signedEnd := 13

/-- What is encoded already is not looked at when it is written, and may be refused when it is read. -/
theorem encoded_is_refused :
    ((WireFormat.tlv {}).encodeInterest (fun _ => 0) strayLink = .ok strayLinkBlob
        ∧ strayLinkBlob.bytes.length ≤ ({} : PacketConfig).maxPacketSize.toNat
        ∧ (WireFormat.tlv {}).decodeInterest strayLinkBlob.bytes = .error (.truncated 18))
      ∧ (WireFormat.tlv {}).encodeData strayInfo = .ok strayInfoBlob
        ∧ strayInfoBlob.bytes.length ≤ ({} : PacketConfig).maxPacketSize.toNat
        ∧ (WireFormat.tlv {}).decodeData strayInfoBlob.bytes = .error (.unexpectedType 0x16 0x15 11) :=
  ⟨⟨rfl, by decide, rfl⟩, rfl, by decide, rfl⟩

end Wire

end NamedData
