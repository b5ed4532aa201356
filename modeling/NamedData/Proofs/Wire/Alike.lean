import NamedData.Proofs.Wire.Containers

/-!
# Containers with the same fields

A grammar gives the same value for lists of elements that are alike, which is shown field by field, along
each grammar once. So a container whose elements are replaced by others that are alike holds what it held
(`Container.holds_of_alike`). Of a signature this needs that its scheme is known, since the description
of any other scheme is kept as it is.
-/

namespace NamedData.Wire

open Element (concat)

variable {α : Type} {type : UInt64} {types : List UInt64} {c : Container}

namespace Container

/-! ## Fields of lists that are alike -/

/-- What the elements of a type hold is held by what stands in their places. -/
def Keeps (c : Container) (type : UInt64) (P : Element → α → Prop) : Prop :=
  ∀ ⦃e e' : Element⦄ ⦃a : α⦄, e.type = type → c.Revises e e' → P e a → P e' a

/-- A field that is no container is the same. -/
theorem Keeps.leaf {P : Element → α → Prop} (h : c.child? type = none) : c.Keeps type P := by
  rintro e e' a rfl hfield ha
  rw [hfield.eq h]
  exact ha

theorem Keeps.child (child : Container) (h : c.child? type = some child) :
    c.Keeps type child.Holds := by
  rintro e e' a rfl hfield ha
  exact hfield.holds h ha

end Container

variable {e e' : Element} {es es' rest : List Element} {P : Element → α → Prop}

theorem Required.alike {a : α} (h : Required type P es a rest) (hes : c.Alike (type :: types) es es')
    (hP : c.Keeps type P) : ∃ rest', Required type P es' a rest' ∧ c.Alike types rest rest' := by
  obtain ⟨e, rfl, htype, ha⟩ := h
  cases hes with
  | field _ hfield hrest =>
    exact ⟨_, ⟨_, rfl, hfield.type_eq.trans htype, hP htype hfield ha⟩, hrest⟩
  | missing hother => exact absurd htype (hother e rfl)

theorem Optional.alike {a : Option α} (h : Optional type P es a rest)
    (hes : c.Alike (type :: types) es es') (hP : c.Keeps type P) :
    ∃ rest', Optional type P es' a rest' ∧ c.Alike types rest rest' := by
  cases h with
  | @some e _ _ htype ha =>
    cases hes with
    | field _ hfield hrest =>
      exact ⟨_, .some (hfield.type_eq.trans htype) (hP htype hfield ha), hrest⟩
    | missing hother => exact absurd htype (hother e rfl)
  | none hother =>
    cases hes with
    | field htype => exact absurd htype (hother _ rfl)
    | missing _ hother' hrest => exact ⟨_, .none hother', hrest⟩

/-- A grammar and a tail have the same value for other elements. -/
theorem Grammar.Fills.of_alike {g : Grammar α} {a : α} (h : g.Fills (concat es) a)
    (hg : ∀ rest, g es a rest → ∃ types rest', g es' a rest' ∧ c.Alike types rest rest') :
    g.Fills (concat es') a := by
  obtain ⟨_, rest, hes, hfields, htail⟩ := h
  cases Element.concat_injective hes
  obtain ⟨types, rest', hfields', halike⟩ := hg rest hfields
  exact ⟨es', rest', rfl, hfields', halike.isTail htail⟩

/-! ## Grammars -/

theorem KeyLocatorFields.alike {k : KeyLocator} (h : KeyLocatorFields es k rest)
    (hes : Container.keyLocator.Alike Container.keyLocator.fields es es') :
    ∃ types rest', KeyLocatorFields es' k rest' ∧ Container.keyLocator.Alike types rest rest' := by
  cases h with
  | name hname =>
    obtain ⟨rest', hname, hes⟩ := hname.alike hes (.leaf rfl)
    exact ⟨_, rest', .name hname, hes⟩
  | digest hdigest =>
    cases hes with
    | field htype =>
      obtain ⟨_, ⟨⟩, hother, -⟩ := hdigest
      exact absurd (htype.symm.trans hother) (by decide)
    | missing _ _ hes =>
      obtain ⟨rest', hdigest, hes⟩ := hdigest.alike hes (.leaf rfl)
      exact ⟨_, rest', .digest hdigest, hes⟩
  | absent hother =>
    cases hes with
    | field htype => exact absurd htype (hother _ rfl).1
    | missing _ hname hes =>
      cases hes with
      | field htype => exact absurd htype (hother _ rfl).2
      | missing _ hdigest hes => exact ⟨_, _, .absent fun e he => ⟨hname e he, hdigest e he⟩, hes⟩

theorem SelectorsFields.alike {s : Selectors} (h : SelectorsFields es s rest)
    (hes : Container.selectors.Alike Container.selectors.fields es es') :
    ∃ types rest', SelectorsFields es' s rest' ∧ Container.selectors.Alike types rest rest' := by
  obtain ⟨hmin, hmax, hlocator, hexclude, hchild, hfresh⟩ := h
  obtain ⟨_, hmin, hes⟩ := hmin.alike hes (.leaf rfl)
  obtain ⟨_, hmax, hes⟩ := hmax.alike hes (.leaf rfl)
  obtain ⟨_, hlocator, hes⟩ := hlocator.alike hes (.child .keyLocator rfl)
  obtain ⟨_, hexclude, hes⟩ := hexclude.alike hes (.leaf rfl)
  obtain ⟨_, hchild, hes⟩ := hchild.alike hes (.leaf rfl)
  obtain ⟨_, hfresh, hes⟩ := hfresh.alike hes (.leaf rfl)
  exact ⟨_, _, .mk hmin hmax hlocator hexclude hchild hfresh, hes⟩

theorem InterestFields.alike {name : Name} {i : Interest} (h : InterestFields name es i rest)
    (hes : Container.interest.Alike (Container.interest.fields.drop 1) es es') :
    ∃ types rest', InterestFields name es' i rest' ∧ Container.interest.Alike types rest rest' := by
  obtain ⟨hselectors, hnonce, hscope, hlifetime, hlink, hselected, hfound⟩ := h
  obtain ⟨_, hselectors, hes⟩ := hselectors.alike hes (.child .selectors rfl)
  obtain ⟨_, hnonce, hes⟩ := hnonce.alike hes (.leaf rfl)
  obtain ⟨_, hscope, hes⟩ := hscope.alike hes (.leaf rfl)
  obtain ⟨_, hlifetime, hes⟩ := hlifetime.alike hes (.leaf rfl)
  obtain ⟨_, hlink, hes⟩ := hlink.alike hes (.leaf rfl)
  obtain ⟨_, hselected, hes⟩ := hselected.alike hes (.leaf rfl)
  exact ⟨_, _, .mk hselectors hnonce hscope hlifetime hlink hselected hfound, hes⟩

theorem MetaInfoFields.alike {m : MetaInfo} (h : MetaInfoFields es m rest)
    (hes : Container.metaInfo.Alike Container.metaInfo.fields es es') :
    ∃ types rest', MetaInfoFields es' m rest' ∧ Container.metaInfo.Alike types rest rest' := by
  obtain ⟨hcontentType, hfreshness, hfinal⟩ := h
  obtain ⟨_, hcontentType, hes⟩ := hcontentType.alike hes (.leaf rfl)
  obtain ⟨_, hfreshness, hes⟩ := hfreshness.alike hes (.leaf rfl)
  obtain ⟨_, hfinal, hes⟩ := hfinal.alike hes (.leaf rfl)
  exact ⟨_, _, .mk hcontentType hfreshness hfinal, hes⟩

theorem DataFields.alike {unsigned : List Element} {d : Data} (h : DataFields unsigned es d rest)
    (hes : Container.data.Alike Container.data.fields es es') : ∃ types unsigned' rest',
      DataFields unsigned' es' d rest' ∧ Container.data.Alike types rest rest' := by
  obtain ⟨hname, hmetaInfo, hcontent, hscheme, rfl, hbytes⟩ := h
  next info bytes _ _ _ signature =>
  obtain ⟨htype, -⟩ := id hscheme
  have hinfo : Required ElementType.signatureInfo Container.signatureInfo.Holds
      (info :: bytes :: rest) signature (bytes :: rest) := ⟨info, rfl, htype, hscheme⟩
  have hvalue : Required ElementType.signatureValue HoldsBytes (bytes :: rest) bytes.value rest :=
    ⟨bytes, rfl, hbytes, rfl⟩
  obtain ⟨_, hname, hes⟩ := hname.alike hes (.leaf rfl)
  obtain ⟨_, hmetaInfo, hes⟩ := hmetaInfo.alike hes (.child .metaInfo rfl)
  obtain ⟨_, hcontent, hes⟩ := hcontent.alike hes (.leaf rfl)
  obtain ⟨_, ⟨info', rfl, -, hscheme⟩, hunsigned⟩ := hinfo.alike hes (.child .signatureInfo rfl)
  obtain ⟨_, ⟨bytes', rfl, hbytes, hvalue⟩, hrest⟩ := hvalue.alike hunsigned (.leaf rfl)
  rw [hvalue]
  exact ⟨_, _, _, .mk hname hmetaInfo hcontent hscheme rfl hbytes, hrest⟩

theorem NackFields.alike {refusal : NetworkNack} (h : NackFields es refusal rest)
    (hes : Container.nack.Alike Container.nack.fields es es') :
    ∃ types rest', NackFields es' refusal rest' ∧ Container.nack.Alike types rest rest' := by
  obtain ⟨hreason⟩ := h
  obtain ⟨_, hreason, hes⟩ := hreason.alike hes (.leaf rfl)
  exact ⟨_, _, .mk hreason, hes⟩

theorem ParametersFields.alike {p : ControlParameters} (h : ParametersFields es p rest)
    (hes : Container.parameters.Alike Container.parameters.fields es es') :
    ∃ types rest', ParametersFields es' p rest' ∧ Container.parameters.Alike types rest rest' := by
  obtain ⟨hname, hfaceId, huri, hfeature, horigin, hcost, hflags, hstrategy, hexpiration⟩ := h
  obtain ⟨_, hname, hes⟩ := hname.alike hes (.leaf rfl)
  obtain ⟨_, hfaceId, hes⟩ := hfaceId.alike hes (.leaf rfl)
  obtain ⟨_, huri, hes⟩ := huri.alike hes (.leaf rfl)
  obtain ⟨_, hfeature, hes⟩ := hfeature.alike hes (.leaf rfl)
  obtain ⟨_, horigin, hes⟩ := horigin.alike hes (.leaf rfl)
  obtain ⟨_, hcost, hes⟩ := hcost.alike hes (.leaf rfl)
  obtain ⟨_, hflags, hes⟩ := hflags.alike hes (.leaf rfl)
  obtain ⟨_, hstrategy, hes⟩ := hstrategy.alike hes (.leaf rfl)
  obtain ⟨_, hexpiration, hes⟩ := hexpiration.alike hes (.leaf rfl)
  exact ⟨_, _, .mk hname hfaceId huri hfeature horigin hcost hflags hstrategy hexpiration, hes⟩

theorem ResponseFields.alike {r : ControlResponse} (h : ResponseFields es r rest)
    (hes : Container.response.Alike Container.response.fields es es') :
    ∃ types rest', ResponseFields es' r rest' ∧ Container.response.Alike types rest rest' := by
  obtain ⟨hcode, htext, hbody⟩ := h
  obtain ⟨_, hcode, hes⟩ := hcode.alike hes (.leaf rfl)
  obtain ⟨_, htext, hes⟩ := htext.alike hes (.leaf rfl)
  obtain ⟨_, hbody, hes⟩ := hbody.alike hes (.child .parameters rfl)
  exact ⟨_, _, .mk hcode htext hbody, hes⟩

/-! ## Signatures -/

theorem KeyLocatorField.alike {k : KeyLocator} (h : KeyLocatorField es k rest)
    (hes : Container.signatureInfo.Alike (ElementType.keyLocator :: types) es es') :
    ∃ rest', KeyLocatorField es' k rest' ∧ Container.signatureInfo.Alike types rest rest' := by
  obtain ⟨found, hfound, hk⟩ := h
  obtain ⟨rest', hfound, hes⟩ := hfound.alike hes (.child .keyLocator rfl)
  exact ⟨rest', ⟨found, hfound, hk⟩, hes⟩

theorem KeyFields.alike {p : KeyLocator × ValidityPeriod} (h : KeyFields es p rest)
    (hes : Container.signatureInfo.Alike (Container.signatureInfo.fields.drop 1) es es') :
    ∃ types rest', KeyFields es' p rest' ∧ Container.signatureInfo.Alike types rest rest' := by
  obtain ⟨es₁, hlocator, bounds, hbounds, hperiod⟩ := h
  obtain ⟨es₁', hlocator, hes⟩ := hlocator.alike hes
  obtain ⟨rest', hbounds, hes⟩ := hbounds.alike hes (.leaf rfl)
  exact ⟨_, rest', ⟨es₁', hlocator, bounds, hbounds, hperiod⟩, hes⟩

/-- What follows the number of a known scheme does not depend on how it is kept. -/
theorem SchemeFields.alike {info info' : Bytes} {scheme : SignatureType} {s : Signature}
    (h : SchemeFields info scheme (concat es) s) (hknown : ∀ code, scheme ≠ .other code)
    (hes : Container.signatureInfo.Alike (Container.signatureInfo.fields.drop 1) es es') :
    SchemeFields info' scheme (concat es') s := by
  generalize hbytes : concat es = bytes at h
  cases h with
  | digestSha256 htail =>
    cases Element.concat_injective hbytes
    exact .digestSha256 (hes.isTail htail)
  | hmacWithSha256 hk =>
    subst hbytes
    exact .hmacWithSha256 (hk.of_alike fun rest h => ⟨_, h.alike hes⟩)
  | sha256WithRsa hp =>
    subst hbytes
    exact .sha256WithRsa (hp.of_alike fun rest h => h.alike hes)
  | sha256WithEcdsa hp =>
    subst hbytes
    exact .sha256WithEcdsa (hp.of_alike fun rest h => h.alike hes)
  | @other code => exact absurd rfl (hknown code)

theorem DescribesScheme.alike {info info' : Bytes} {s : Signature} (h : DescribesScheme info e s)
    (hopen : Container.signatureInfo.IsOpen e) (hvalue : HoldsElements e es)
    (hvalue' : HoldsElements e' es') (htype : e'.type = e.type)
    (hes : Container.signatureInfo.Alike Container.signatureInfo.fields es es') :
    DescribesScheme info' e' s := by
  obtain ⟨number, code, fields, rfl, hnumber, hcode, hknown, hfields⟩ := h.exists_fields hopen hvalue
  obtain ⟨hinfo, -⟩ := h
  cases hes with
  | field _ hfield hrest =>
    rw [hfield.eq (by rw [hnumber]; rfl)] at hvalue'
    exact .mk (htype.trans hinfo) hvalue' hnumber hcode (hfields.alike hknown hrest)
  | missing hother => exact absurd hnumber (hother _ rfl)

/-! ## Packets -/

/-- Where some bytes have the signed range is told by how they are split. -/
theorem SignedBlob.exists_signs (before signed after : Bytes) :
    ∃ blob : SignedBlob, blob.bytes = before ++ (signed ++ after) ∧ blob.Signs signed after :=
  ⟨_, rfl, before, rfl⟩

theorem InterestPacket.alike {blob : SignedBlob} {i : Interest} (h : InterestPacket blob i)
    (hbytes : blob.bytes = e.bytes) (hvalue : HoldsElements e es) (hvalue' : HoldsElements e' es')
    (htype : e'.type = e.type) (hes : Container.interest.Alike Container.interest.fields es es') :
    ∃ blob', InterestPacket blob' i ∧ blob'.bytes = e'.bytes := by
  obtain ⟨hinterest, name, components, fields, rest, rfl, hname, hcomponents, hfields, htail⟩ :=
    h.exists_fields hbytes hvalue
  cases hes with
  | @field _ _ _ name' _ fields' _ hfield hrest =>
    cases hfield.eq (by rw [hname]; rfl)
    obtain ⟨types, rest', hfields', hes⟩ := hfields.alike hrest
    obtain ⟨head, -, -, he⟩ := e'.isElement
    obtain ⟨nameHead, -, -, hnameBytes⟩ := name.isElement
    obtain ⟨blob', hblob, hsigned⟩ := SignedBlob.exists_signs (head ++ nameHead)
      (concat components.dropLast) (concat components.getLast?.toList ++ concat fields')
    have hall : blob'.bytes = e'.bytes := by
      rw [hblob, he, hvalue', Element.concat_cons, hnameBytes, hcomponents,
        ← Element.concat_dropLast_append components]
      simp only [List.append_assoc]
    exact ⟨blob', .mk (htype.trans hinterest) hall hvalue' hname hcomponents hfields'
      (hes.isTail htail) hsigned, hall⟩
  | missing hother => exact absurd hname (hother _ rfl)

theorem DataPacket.alike {blob : SignedBlob} {d : Data} (h : DataPacket blob d)
    (hbytes : blob.bytes = e.bytes) (hvalue : HoldsElements e es) (hvalue' : HoldsElements e' es')
    (htype : e'.type = e.type) (hes : Container.data.Alike Container.data.fields es es') :
    ∃ blob', DataPacket blob' d ∧ blob'.bytes = e'.bytes := by
  obtain ⟨hdata, unsigned, rest, hfields, htail⟩ := h.exists_fields hbytes hvalue
  obtain ⟨types, unsigned', rest', hfields', hrest⟩ := hfields.alike hes
  obtain ⟨signed', rfl⟩ := hfields'.suffix
  obtain ⟨head, -, -, he⟩ := e'.isElement
  obtain ⟨blob', hblob, hsigned⟩ := SignedBlob.exists_signs head (concat signed') (concat unsigned')
  have hall : blob'.bytes = e'.bytes := by
    rw [hblob, he, hvalue', Element.concat_append]
  exact ⟨blob', .mk (htype.trans hdata) hall hvalue' hfields' (hrest.isTail htail) hsigned, hall⟩

/-- A container whose elements are alike holds the same. -/
theorem Container.holds_of_alike {a : c.Value} (h : c.Holds e a) (hvalue : HoldsElements e es)
    (hvalue' : HoldsElements e' es') (htype : e'.type = e.type)
    (hopen : c.IsOpen e) (hes : c.Alike c.fields es es') : c.Holds e' a := by
  have hcontains {β : Type} {g : Grammar β} {b : β} (hb : Contains g e b)
      (hg : ∀ rest, g es b rest → ∃ types rest', g es' b rest' ∧ c.Alike types rest rest') :
      Contains g e' b := by
    rw [Contains, hvalue] at hb
    rw [Contains, hvalue']
    exact hb.of_alike hg
  cases c with
  | interest =>
    obtain ⟨blob, hpacket, hbytes⟩ := h
    exact hpacket.alike hbytes hvalue hvalue' htype hes
  | selectors => exact hcontains h fun _ hfields => hfields.alike hes
  | data =>
    obtain ⟨blob, hpacket, hbytes⟩ := h
    exact hpacket.alike hbytes hvalue hvalue' htype hes
  | metaInfo => exact hcontains h fun _ hfields => hfields.alike hes
  | keyLocator => exact hcontains h fun _ hfields => hfields.alike hes
  | signatureInfo => exact DescribesScheme.alike h hopen hvalue hvalue' htype hes
  | nack => exact hcontains h fun _ hfields => hfields.alike hes
  | parameters => exact hcontains h fun _ hfields => hfields.alike hes
  | response => exact hcontains h fun _ hfields => hfields.alike hes

end NamedData.Wire
