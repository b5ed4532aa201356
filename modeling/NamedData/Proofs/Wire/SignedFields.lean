import NamedData.Proofs.Wire.DataGrammar

/-!
# What is signed is what is read

All fields of a Data packet but the bytes of its signature stand in the signed part. A packet may be put
into another outer element, with other bytes of the signature and other elements after them:
`DataPacket.resigned` says that it is decoded as before, but for these bytes. Since the signed bytes are
cut into elements in one way only, packets with the same signed bytes have the same signed fields
(`signed_fields_eq`).
-/

namespace NamedData

theorem Signature.withBytes_withBytes (s : Signature) (first second : Bytes) :
    (s.withBytes first).withBytes second = s.withBytes second := by
  cases s <;> rfl

namespace Wire

open Element (concat)

/-! ## Fields in front of other elements -/

section Replace

variable {α : Type} {type : UInt64} {P : Element → α → Prop} {es rest : List Element}

/-- A field that must be there does not depend on what follows it. -/
theorem Required.exists_taken {a : α} (h : Required type P es a rest) :
    ∃ taken, es = taken ++ rest ∧ ∀ rest', Required type P (taken ++ rest') a rest' := by
  obtain ⟨e, rfl, htype, ha⟩ := h
  exact ⟨[e], rfl, fun rest' => ⟨e, rfl, htype, ha⟩⟩

/-- A field that may be missing depends on the next element only. -/
theorem Optional.exists_taken {a : Option α} (h : Optional type P es a rest) :
    ∃ taken, es = taken ++ rest
      ∧ ∀ rest', rest'.head? = rest.head? → Optional type P (taken ++ rest') a rest' := by
  cases h with
  | @some e _ _ htype ha => exact ⟨[e], rfl, fun _ _ => .some htype ha⟩
  | none hother =>
    refine ⟨[], rfl, fun rest' hhead => .none ?_⟩
    rw [List.nil_append, hhead]
    exact hother

end Replace

/-- The signed fields of a packet do not depend on what follows the description of the scheme. -/
theorem DataFields.resigned {signed unsigned rest rest' : List Element} {bytes : Element} {d : Data}
    (h : DataFields unsigned (signed ++ unsigned) d rest)
    (hbytes : bytes.type = ElementType.signatureValue) :
    DataFields (bytes :: rest') (signed ++ bytes :: rest')
      { d with signature := d.signature.withBytes bytes.value } rest' := by
  generalize hes : signed ++ unsigned = es at h
  obtain ⟨hname, hmetaInfo, hcontent, hscheme, -, -⟩ := h
  next info _ _ _ _ _ =>
  obtain ⟨name, rfl, hnameAgain⟩ := hname.exists_taken
  obtain ⟨metaInfo, rfl, hmetaInfoAgain⟩ := hmetaInfo.exists_taken
  obtain ⟨content, rfl, hcontentAgain⟩ := hcontent.exists_taken
  have hsigned : signed = name ++ (metaInfo ++ (content ++ [info])) := by
    have heq : signed ++ unsigned = name ++ (metaInfo ++ (content ++ [info])) ++ unsigned := by
      simpa using hes
    exact List.append_cancel_right heq
  have hhead : (content ++ info :: bytes :: rest').head? = (content ++ info :: unsigned).head? := by
    cases content <;> rfl
  have heq : signed ++ bytes :: rest' = name ++ (metaInfo ++ (content ++ info :: bytes :: rest')) := by
    simp [hsigned]
  rw [heq, Signature.withBytes_withBytes]
  exact .mk (hnameAgain _) (hmetaInfoAgain _ hhead) (hcontentAgain _ rfl) hscheme rfl hbytes

/-- The first unsigned element is that of the signature's bytes. -/
theorem DataFields.exists_bytes {unsigned es rest : List Element} {d : Data}
    (h : DataFields unsigned es d rest) :
    ∃ bytes : Element, unsigned = bytes :: rest ∧ bytes.type = ElementType.signatureValue := by
  obtain ⟨-, -, -, -, hunsigned, hbytes⟩ := h
  exact ⟨_, hunsigned, hbytes⟩

/-! ## Packets with the same signed part -/

/-- The signed bytes are the signed part. -/
theorem SignedBlob.Signs.signedPortion_eq {blob : SignedBlob} {signed after : Bytes}
    (h : blob.Signs signed after) : blob.signedPortion = signed := by
  obtain ⟨before, rfl⟩ := h
  simp [SignedBlob.signedPortion]

/-- Every element that holds the signed bytes of a packet, some bytes of a signature and a tail is decoded
to the packet with these bytes for its signature. -/
theorem DataPacket.resigned {blob blob' : SignedBlob} {d : Data} {e bytes : Element}
    {signed rest : List Element} (h : DataPacket blob d) (hsame : blob.signedPortion = concat signed)
    (htype : e.type = ElementType.data) (he : blob'.bytes = e.bytes)
    (hvalue : HoldsElements e (signed ++ bytes :: rest))
    (hbytes : bytes.type = ElementType.signatureValue) (htail : IsTail rest)
    (hsigns : blob'.Signs (concat signed) (concat (bytes :: rest))) :
    DataPacket blob' { d with signature := d.signature.withBytes bytes.value } := by
  obtain ⟨-, -, -, hfields, -, hold⟩ := h
  have heq := Element.concat_injective (hold.signedPortion_eq.symm.trans hsame)
  subst heq
  exact .mk htype he hvalue (hfields.resigned hbytes) htail hsigns

/-- Two Data packets with the same signed bytes have the same fields, the bytes of their signatures
apart. -/
theorem signed_fields_eq {config₁ config₂ : PacketConfig} {input₁ input₂ : Bytes} {d₁ d₂ : Data}
    {blob₁ blob₂ : SignedBlob}
    (h₁ : (WireFormat.tlv config₁).decodeData input₁ = .ok (d₁, blob₁))
    (h₂ : (WireFormat.tlv config₂).decodeData input₂ = .ok (d₂, blob₂))
    (hsigned : blob₁.signedPortion = blob₂.signedPortion) :
    d₁.name = d₂.name ∧ d₁.metaInfo = d₂.metaInfo ∧ d₁.content = d₂.content
      ∧ d₁.signature.withBytes [] = d₂.signature.withBytes [] := by
  obtain ⟨hmax₁, hread₁⟩ := withinSize_eq_ok_iff.1 h₁
  obtain ⟨hmax₂, hread₂⟩ := withinSize_eq_ok_iff.1 h₂
  have hsize₁ := Nat.lt_of_le_of_lt hmax₁ config₁.maxPacketSize.toNat_lt
  have hsize₂ := Nat.lt_of_le_of_lt hmax₂ config₂.maxPacketSize.toNat_lt
  obtain ⟨hpacket₁, -⟩ := (decodeData_eq_ok_iff hsize₁).1 hread₁
  obtain ⟨hpacket₂, hinput⟩ := (decodeData_eq_ok_iff hsize₂).1 hread₂
  obtain ⟨htype, he, hvalue, hfields, htail, hsigns⟩ := hpacket₂
  obtain ⟨bytes, rfl, hbytes⟩ := hfields.exists_bytes
  -- the second input holds the first packet as well, under the second signature
  have hnew := hpacket₁.resigned (hsigned.trans hsigns.signedPortion_eq) htype he hvalue hbytes htail hsigns
  have hdecode := (decodeData_eq_ok_iff hsize₂).2 ⟨hnew, hinput⟩
  rw [hread₂] at hdecode
  cases hdecode
  exact ⟨rfl, rfl, rfl, (Signature.withBytes_withBytes _ _ _).symm⟩

/-- The packet of `tailedDataBlob` in an outer element with wide numbers, with other bytes of the
signature and another element after them. -/
def resignedDataBlob : SignedBlob where
  bytes := [0xfd, 0x00, 0x06, 0xfe, 0x00, 0x00, 0x00, 0x25, 0x07, 0x03, 0x08, 0x01, 0x61, 0x14, 0x06,
    0x19, 0x02, 0x03, 0xe8, 0x80, 0x00, 0x16, 0x0e, 0x1b, 0x02, 0x00, 0x04, 0x1c, 0x05, 0x1d, 0x01,
    0xaa, 0x80, 0x00, 0x82, 0x01, 0xff, 0x17, 0x02, 0x04, 0x05, 0x86, 0x02, 0x01, 0x02]
  signedBegin := 8
  signedEnd := 37

def resignedData : Data :=
  { tailedData with signature := .hmacWithSha256 [0x04, 0x05] (.digest [0xaa]) }

theorem signed_fields_eq_resigned :
    tailedDataBlob.signedPortion = resignedDataBlob.signedPortion
      ∧ tailedData.name = resignedData.name ∧ tailedData.metaInfo = resignedData.metaInfo
      ∧ tailedData.content = resignedData.content
      ∧ tailedData.signature.withBytes [] = resignedData.signature.withBytes []
      ∧ tailedData.signature ≠ resignedData.signature := by
  have hdecode₁ : (WireFormat.tlv {}).decodeData tailedDataBlob.bytes = .ok (tailedData, tailedDataBlob) :=
    eq_ok_of_toOption (by decide +kernel)
  have hdecode₂ : (WireFormat.tlv ⟨100, 4, 4000⟩).decodeData (resignedDataBlob.bytes ++ [0x17])
      = .ok (resignedData, resignedDataBlob) := eq_ok_of_toOption (by decide +kernel)
  have hsigned : tailedDataBlob.signedPortion = resignedDataBlob.signedPortion := by decide
  obtain ⟨hname, hmetaInfo, hcontent, hsignature⟩ := signed_fields_eq hdecode₁ hdecode₂ hsigned
  exact ⟨hsigned, hname, hmetaInfo, hcontent, hsignature, by decide⟩

end Wire

end NamedData
