import NamedData.Proofs.Dump.Call
import NamedData.Proofs.Dump.Summary
import NamedData.Proofs.Wire.Framing
import NamedData.Proofs.Wire.Shortest

/-!
# The delegations that are shown

A dump reads a packet under the configuration of the call, but the delegations in a link's content under the
initial configuration. So a link is shown with all of its delegations if its content is within the initial
size limit, and else with none (`delegations_shown`).
-/

namespace NamedData

open Wire (Element IsDelegation)
open Wire.Element (concat)

/-! ## The content of a link -/

/-- The content is a part of the packet. -/
theorem Wire.DataPacket.length_content_le {blob : SignedBlob} {d : Data} (h : DataPacket blob d) :
    d.content.length ≤ blob.bytes.length := by
  obtain ⟨-, hbytes, hvalue, hfields, -, -⟩ := h
  next e signed unsigned rest =>
  obtain ⟨hname, hmetaInfo, hcontent, -, -, -⟩ := hfields
  cases hcontent with
  | none => exact Nat.zero_le _
  | @some e' _ content _ hholds =>
    obtain ⟨before, hes⟩ := hmetaInfo.suffix.trans hname.suffix
    have hsplit := congrArg List.length ((congrArg concat hes).trans hvalue.symm)
    rw [Element.concat_append, List.length_append, Element.concat_cons, List.length_append] at hsplit
    have hcontent := e'.length_value_le
    have hpacket := e.length_value_le
    rw [hbytes]
    show content.length ≤ _
    rw [hholds]
    omega

/-- The number of bytes of content in which the delegations of a link are found. -/
def contentLimit : Nat :=
  ({} : PacketConfig).maxPacketSize.toNat

/-- The delegations of a link are found if its content is within the limit, and none else. -/
theorem linkDelegations_eq {d : Data} {es : List Element} {delegations : List Delegation}
    (htype : d.metaInfo.contentType = .link) (hsize : d.content.length < UInt64.size)
    (hcontent : d.content = concat es) (hrow : List.Forall₂ IsDelegation es delegations) :
    Wire.linkDelegations d
      = .ok ⟨if d.content.length ≤ contentLimit then delegations else []⟩ := by
  have hread : Wire.decodeDelegations d.content = .ok ⟨delegations⟩ :=
    (Wire.decodeDelegations_eq_ok_iff hsize).2 ⟨es, hcontent, hrow⟩
  rw [Wire.linkDelegations, if_pos htype]
  by_cases hlimit : d.content.length ≤ contentLimit
  · have hdecode : Wire.WireFormat.initial.decodeDelegations d.content = .ok ⟨delegations⟩ :=
      Wire.withinSize_eq_ok_iff.2 ⟨hlimit, hread⟩
    rw [hdecode, if_pos hlimit]
  · have hrefused : Wire.WireFormat.initial.decodeDelegations d.content
        = .error (.packetTooLarge d.content.length contentLimit) := by
      show Wire.withinSize {} Wire.decodeDelegations d.content = _
      rw [Wire.withinSize, Wire.checkSize]
      exact if_pos (Nat.not_le.1 hlimit) ▸ rfl
    rw [hrefused, if_neg hlimit]

namespace Dump

/-! ## Dumps of links -/

/-- What is shown of a link whose content is a row of delegations. -/
theorem summarize_link_eq_ok {config : PacketConfig} {kind : PacketKind} {input : Bytes} {d : Data}
    {blob : Wire.SignedBlob} {es : List Element} {delegations : List Delegation}
    (hkind : kind = .data ∨ kind = .link)
    (hdecode : (Wire.WireFormat.tlv config).decodeData input = .ok (d, blob))
    (htype : d.metaInfo.contentType = .link) (hcontent : d.content = concat es)
    (hrow : List.Forall₂ IsDelegation es delegations) :
    d.content.length ≤ config.maxPacketSize.toNat ∧ summarize config kind input
      = .ok (ofLink d ⟨if d.content.length ≤ contentLimit then delegations else []⟩) := by
  obtain ⟨hmax, hread⟩ := Wire.withinSize_eq_ok_iff.1 hdecode
  have hlt := config.maxPacketSize.toNat_lt
  obtain ⟨hpacket, rest, hinput⟩ :=
    (Wire.decodeData_eq_ok_iff (Nat.lt_of_le_of_lt hmax hlt)).1 hread
  have hlength : d.content.length ≤ config.maxPacketSize.toNat := by
    have hpart := hpacket.length_content_le
    rw [hinput, List.length_append] at hmax
    omega
  refine ⟨hlength, ?_⟩
  rw [summarize_link hkind hdecode htype, summarizeLink,
    linkDelegations_eq htype (Nat.lt_of_le_of_lt hlength hlt) hcontent hrow]
  rfl

/-- A link that is decoded under the configuration of the call, and whose content is a row of delegations,
is shown as a link with these delegations, in their order, if and only if the content is within the size
limit of the initial configuration. Otherwise it is shown as a link without any. Under a configuration that
does not allow larger packets than the initial one it is always shown with its delegations. -/
theorem delegations_shown (options : Options) (raw : Bytes) (config : PacketConfig) (kind : PacketKind)
    (input : Bytes) (d : Data) (blob : Wire.SignedBlob) (es : List Element)
    (delegations : List Delegation) (htakes : Takes options raw config kind input)
    (hkind : kind = .data ∨ kind = .link)
    (hdecode : (Wire.WireFormat.tlv config).decodeData input = .ok (d, blob))
    (htype : d.metaInfo.contentType = .link) (hcontent : d.content = concat es)
    (hrow : List.Forall₂ IsDelegation es delegations) :
    ∃ summary, run options raw = ⟨0, summary.render options.json, ""⟩
      ∧ summary = ofLink d ⟨if d.content.length ≤ contentLimit then delegations else []⟩
      ∧ (summary.ListsDelegations delegations ↔ d.content.length ≤ contentLimit)
      ∧ (config.maxPacketSize.toNat ≤ contentLimit → summary.ListsDelegations delegations) := by
  obtain ⟨hlength, hsummary⟩ := summarize_link_eq_ok hkind hdecode htype hcontent hrow
  have hlists : (ofLink d ⟨if d.content.length ≤ contentLimit then delegations else []⟩).ListsDelegations
      delegations ↔ d.content.length ≤ contentLimit := by
    rw [listsDelegations_iff]
    by_cases hlimit : d.content.length ≤ contentLimit
    · rw [if_pos hlimit]
      exact iff_of_true (List.forall₂_same.2 fun _ _ => ⟨rfl, rfl⟩) hlimit
    · -- content above the limit is not empty, so there are delegations that are not shown
      rw [if_neg hlimit]
      refine iff_of_false (fun hnone => hlimit ?_) hlimit
      cases hnone
      cases hrow
      rw [hcontent]
      exact Nat.zero_le _
  exact ⟨_, htakes.run_eq hsummary, rfl, hlists, fun hsmall => hlists.2 (Nat.le_trans hlength hsmall)⟩

/-- A link with two delegations, the later of which is preferred. -/
def pairLink : Data where
  name := ⟨[.generic [0x6c]]⟩
  metaInfo := { contentType := .link }
  content := [0x1f, 0x08, 0x1e, 0x01, 0x02, 0x07, 0x03, 0x08, 0x01, 0x78,
    0x1f, 0x08, 0x1e, 0x01, 0x01, 0x07, 0x03, 0x08, 0x01, 0x79]
  signature := .digestSha256 []

def pairPacket : Bytes :=
  [0x06, 0x27, 0x07, 0x03, 0x08, 0x01, 0x6c, 0x14, 0x03, 0x18, 0x01, 0x01, 0x15, 0x14, 0x1f, 0x08,
    0x1e, 0x01, 0x02, 0x07, 0x03, 0x08, 0x01, 0x78, 0x1f, 0x08, 0x1e, 0x01, 0x01, 0x07, 0x03, 0x08,
    0x01, 0x79, 0x16, 0x03, 0x1b, 0x01, 0x00, 0x17, 0x00]

theorem delegations_shown_pair :
    Takes { kind := some .link, json := true } pairPacket {} .link pairPacket
      ∧ ∃ summary : Summary,
        run { kind := some .link, json := true } pairPacket = ⟨0, summary.render true, ""⟩
        ∧ summary.ListsDelegations [⟨2, ⟨[.generic [0x78]]⟩⟩, ⟨1, ⟨[.generic [0x79]]⟩⟩] := by
  have htakes : Takes { kind := some .link, json := true } pairPacket {} .link pairPacket :=
    ⟨rfl, rfl, .inl rfl⟩
  have hdecode : (Wire.WireFormat.tlv {}).decodeData pairPacket = .ok (pairLink, ⟨pairPacket, 2, 39⟩) :=
    eq_ok_of_toOption (by decide +kernel)
  have hrow : Wire.decodeDelegations pairLink.content
      = .ok ⟨[⟨2, ⟨[.generic [0x78]]⟩⟩, ⟨1, ⟨[.generic [0x79]]⟩⟩]⟩ := eq_ok_of_toOption (by decide +kernel)
  obtain ⟨es, hcontent, hrow⟩ := (Wire.decodeDelegations_eq_ok_iff (by decide)).1 hrow
  obtain ⟨summary, hrun, -, -, hlists⟩ := delegations_shown _ _ _ _ _ _ _ _ _ htakes (.inr rfl) hdecode rfl
    hcontent hrow
  exact ⟨htakes, summary, hrun, hlists (by decide)⟩

/-! ### A link above the initial limit -/

/-- A delegation to a name of one component. -/
def delegationTo (value : Bytes) : Delegation :=
  ⟨10, ⟨[.generic value]⟩⟩

/-- A link with this delegation. -/
def linkTo (value : Bytes) : Data where
  name := ⟨[.generic [0x6c]]⟩
  metaInfo := { contentType := .link }
  content := Wire.encodeDelegations ⟨[delegationTo value]⟩
  signature := .digestSha256 []

/-- What the link is encoded as. -/
def linkToBlob (value : Bytes) : Wire.SignedBlob :=
  Wire.dataBlob (linkTo value) [0x16, 0x03, 0x1b, 0x01, 0x00]

theorem length_linkTo (value : Bytes) : value.length < (linkTo value).content.length
    ∧ (linkTo value).content.length ≤ (linkToBlob value).bytes.length
    ∧ (linkToBlob value).bytes.length ≤ value.length + 120 := by
  have hcontent : (linkTo value).content = Wire.element Wire.ElementType.linkDelegation
      (Wire.integerElement Wire.ElementType.linkPreference 10
        ++ Wire.element Wire.ElementType.name (Wire.element 8 value ++ [])) := List.append_nil _
  have hpreference : (Wire.integerElement Wire.ElementType.linkPreference 10).length = 3 := by decide
  have hname : (Wire.nameElement (linkTo value).name).length = 5 := by
    show (Wire.nameElement ⟨[.generic [0x6c]]⟩).length = 5
    decide
  have hmetaInfo : (Wire.element Wire.ElementType.metaInfo
      (Wire.metaInfoValue (linkTo value).metaInfo)).length = 5 := by
    show (Wire.element Wire.ElementType.metaInfo (Wire.metaInfoValue { contentType := .link })).length = 5
    decide
  have hsignature : (Wire.element Wire.ElementType.signatureValue []).length = 2 := by decide
  -- the elements from the inside out
  have hcomponent := Wire.length_element_bounds 8 value
  have hpath := Wire.length_element_bounds Wire.ElementType.name (Wire.element 8 value ++ [])
  have hdelegation := Wire.length_element_bounds Wire.ElementType.linkDelegation
    (Wire.integerElement Wire.ElementType.linkPreference 10
      ++ Wire.element Wire.ElementType.name (Wire.element 8 value ++ []))
  have hfield := Wire.length_element_bounds Wire.ElementType.content (linkTo value).content
  have hpacket : _ ≤ (linkToBlob value).bytes.length ∧ (linkToBlob value).bytes.length ≤ _ :=
    Wire.length_element_bounds Wire.ElementType.data (Wire.signedPart (linkTo value)
      [0x16, 0x03, 0x1b, 0x01, 0x00] ++ Wire.element Wire.ElementType.signatureValue [])
  rw [← hcontent] at hdelegation
  simp only [Wire.signedPart, List.length_append, List.length_cons, List.length_nil] at *
  omega

theorem decodeData_linkToBlob (config : PacketConfig) {value : Bytes}
    (h : (linkToBlob value).bytes.length ≤ config.maxPacketSize.toNat) :
    (Wire.WireFormat.tlv config).decodeData (linkToBlob value).bytes
      = .ok (linkTo value, linkToBlob value) := by
  have hlt := Nat.lt_of_le_of_lt h config.maxPacketSize.toNat_lt
  obtain ⟨_, ⟨⟩, hdescription⟩ := Wire.exists_description (d := (linkTo value).signature) trivial
  obtain ⟨helement, hscheme⟩ := hdescription (by decide)
  have hbytes : (Wire.element Wire.ElementType.signatureValue []).length < UInt64.size := by decide
  have hsignature := Wire.decodeSignature_of_description hscheme hbytes
  exact Wire.withinSize_eq_ok_iff.2 ⟨h, Wire.decodeData_dataBlob helement hsignature hlt⟩

/-- A call under a configuration that allows packets of 20000 bytes. -/
def wideOptions : Options where
  kind := some .data
  config := some ("wide.json", "\x7b\"max_packet_size\": 20000\x7d")

/-- Under this configuration a link is decoded that has one delegation, and is shown without any. -/
theorem delegation_left_out :
    let value : Bytes := List.replicate contentLimit 0x61
    wideOptions.loadConfig = .ok { maxPacketSize := 20000 }
      ∧ (Wire.WireFormat.tlv { maxPacketSize := 20000 }).decodeData (linkToBlob value).bytes
        = .ok (linkTo value, linkToBlob value)
      ∧ (∃ es, (linkTo value).content = concat es ∧ List.Forall₂ IsDelegation es [delegationTo value])
      ∧ run wideOptions (linkToBlob value).bytes = ⟨0, "Link /l\n", ""⟩ := by
  intro value
  have hconfig : wideOptions.loadConfig = .ok { maxPacketSize := 20000 } :=
    eq_ok_of_toOption (by decide +kernel)
  have htakes : Takes wideOptions (linkToBlob value).bytes { maxPacketSize := 20000 } .data
      (linkToBlob value).bytes := ⟨hconfig, rfl, .inl rfl⟩
  have hvalue : value.length = contentLimit := List.length_replicate
  have hlimit : contentLimit = 8800 := by decide
  obtain ⟨habove, hpart, hpacket⟩ := length_linkTo value
  have hmax : (linkToBlob value).bytes.length ≤ 20000 := by omega
  have hsize : (linkTo value).content.length < UInt64.size := by
    have : (20000 : Nat) < UInt64.size := by decide
    omega
  have hdecode := decodeData_linkToBlob { maxPacketSize := 20000 } hmax
  obtain ⟨es, hcontent, hrow⟩ :=
    (Wire.decodeDelegations_eq_ok_iff hsize).1 (Wire.decodeDelegations_encode hsize)
  obtain ⟨-, hsummary⟩ := summarize_link_eq_ok (.inl rfl) hdecode rfl hcontent hrow
  rw [if_neg (by omega)] at hsummary
  exact ⟨hconfig, hdecode, ⟨es, hcontent, hrow⟩, htakes.run_eq hsummary⟩

end Dump

end NamedData
