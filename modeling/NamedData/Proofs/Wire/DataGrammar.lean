import NamedData.Proofs.Wire.Data
import NamedData.Proofs.Wire.FieldGrammar

/-!
# The grammar of Data packets

A Data packet is decoded from exactly the inputs that start with a `DataPacket`: one element whose
value is the name, meta information and content if they are there, the two elements of the signature,
and a tail. What the first element of the signature holds depends on the scheme (`DescribesScheme`);
of a scheme that is not known only the number is read. The grammar also tells the values of all fields
and the signed range.
-/

namespace NamedData.Wire

open Element (concat)

/-! ## Signatures -/

/-- An element with the text of an instant in it. -/
def HoldsTime (e : Element) (t : Time.Instant) : Prop :=
  decodeTime e.value = .ok t

/-- The bounds of a validity period. -/
inductive ValidityFields : Grammar (Time.Instant × Time.Instant) where
  | mk {es es₁ rest : List Element} {first last : Time.Instant}
      (hfirst : Required ElementType.notBefore HoldsTime es first es₁)
      (hlast : Required ElementType.notAfter HoldsTime es₁ last rest) :
      ValidityFields es (first, last) rest

/-- A key locator, absent if there is none. -/
def KeyLocatorField : Grammar KeyLocator :=
  fun es k rest => ∃ found,
    Optional ElementType.keyLocator (Contains KeyLocatorFields) es found rest ∧ k = found.getD .absent

/-- A validity period, unlimited if there is none. -/
def ValidityField : Grammar ValidityPeriod :=
  fun es period rest => ∃ bounds,
    Optional ElementType.validityPeriod (Contains ValidityFields) es bounds rest ∧ period = ⟨bounds⟩

/-- What the schemes with a private key have. -/
def KeyFields : Grammar (KeyLocator × ValidityPeriod) :=
  fun es p rest => ∃ es₁, KeyLocatorField es p.1 es₁ ∧ ValidityField es₁ p.2 rest

/-- The description of a scheme after its number, with the signature that it stands for, but for the
bytes. For an unknown scheme `info` is kept. -/
inductive SchemeFields (info : Bytes) : SignatureType → Bytes → Signature → Prop where
  | digestSha256 {es : List Element} (htail : IsTail es) :
      SchemeFields info .digestSha256 (concat es) (.digestSha256 [])
  | hmacWithSha256 {bytes : Bytes} {k : KeyLocator} (h : Grammar.Fills KeyLocatorField bytes k) :
      SchemeFields info .hmacWithSha256 bytes (.hmacWithSha256 [] k)
  | sha256WithRsa {bytes : Bytes} {k : KeyLocator} {period : ValidityPeriod}
      (h : Grammar.Fills KeyFields bytes (k, period)) :
      SchemeFields info .sha256WithRsa bytes (.sha256WithRsa [] k period)
  | sha256WithEcdsa {bytes : Bytes} {k : KeyLocator} {period : ValidityPeriod}
      (h : Grammar.Fills KeyFields bytes (k, period)) :
      SchemeFields info .sha256WithEcdsa bytes (.sha256WithEcdsa [] k period)
  | other {code : UInt64} {bytes : Bytes} :
      SchemeFields info (.other code) bytes (.generic [] info (some code))

/-- An element that describes the scheme of a signature: the number of the scheme, then what the
scheme has. -/
inductive DescribesScheme (info : Bytes) (e : Element) (s : Signature) : Prop where
  | mk {number : Element} {code : UInt64} {rest : Bytes}
      (htype : e.type = ElementType.signatureInfo) (hvalue : e.value = number.bytes ++ rest)
      (hnumber : number.type = ElementType.signatureType) (hcode : HoldsInteger number code)
      (hfields : SchemeFields info (.ofCode code) rest s)

namespace Reader

variable {stop : Nat}

protected theorem AcceptsElement.time (type : UInt64) :
    AcceptsElement (time type) fun _ e t => e.type = type ∧ HoldsTime e t := by
  refine ((AcceptsElement.blob type).bind_idle fun value => .lift (decodeTime value)).congr ?_
  intro offset e t
  constructor
  · rintro ⟨_, ⟨htype, rfl⟩, ht⟩
    exact ⟨htype, ht⟩
  · rintro ⟨htype, ht⟩
    exact ⟨_, ⟨htype, rfl⟩, ht⟩

namespace Accepts

protected theorem keyLocator : Accepts stop keyLocator KeyLocatorField :=
  (AcceptsElement.nested (fun _ => Accepts.keyLocatorValue) ElementType.keyLocator).optional.bind_idle
    fun _ => .pure _

/-- The bounds of a validity period. -/
theorem bounds : Accepts stop (do
    let first ← time ElementType.notBefore
    let last ← time ElementType.notAfter
    return (first, last)) ValidityFields := by
  refine ((AcceptsElement.time ElementType.notBefore).required.bind fun first =>
    (AcceptsElement.time ElementType.notAfter).required.bind fun last => .pure (first, last)).congr ?_
  intro es p rest
  constructor
  · rintro ⟨first, es₁, hfirst, last, es₂, hlast, rfl, rfl⟩
    exact .mk hfirst hlast
  · rintro ⟨hfirst, hlast⟩
    exact ⟨_, _, hfirst, _, _, hlast, rfl, rfl⟩

protected theorem validity : Accepts stop validity ValidityField :=
  (AcceptsElement.nested (fun _ => Accepts.bounds) ElementType.validityPeriod).optional.bind_idle
    fun _ => .pure _

end Accepts

/-- The fields of a scheme with a private key up to the end. -/
theorem Exhausts.keyFields (make : KeyLocator → ValidityPeriod → Signature) :
    Exhausts stop (do
        let k ← keyLocator
        let period ← validity
        tail
        return make k period)
      fun bytes s => ∃ p, Grammar.Fills KeyFields bytes p ∧ s = make p.1 p.2 := by
  have hfields := (@Accepts.keyLocator stop).bind fun k => Accepts.validity.bind fun period =>
    Accepts.tail.bind fun _ => .pure (make k period)
  refine (hfields.exhausts (.bind Accepts.keyLocator fun k => .bind Accepts.validity fun period =>
    .tail_pure (make k period))).congr fun bytes s => ?_
  constructor
  · rintro ⟨es, hbytes, k, es₁, hk, period, es₂, hperiod, -, -, ⟨-, htail⟩, rfl, -⟩
    exact ⟨(k, period), ⟨es, es₂, hbytes, ⟨es₁, hk, hperiod⟩, htail⟩, rfl⟩
  · rintro ⟨⟨k, period⟩, ⟨es, es₂, hbytes, ⟨es₁, hk, hperiod⟩, htail⟩, rfl⟩
    exact ⟨es, hbytes, k, es₁, hk, period, es₂, hperiod, (), [], ⟨rfl, htail⟩, rfl, rfl⟩

/-- Reads what follows the number of a scheme. -/
def schemeFields (info : Bytes) : SignatureType → Reader Signature
  | .digestSha256 => do
    tail
    return .digestSha256 []
  | .hmacWithSha256 => do
    let k ← keyLocator
    tail
    return .hmacWithSha256 [] k
  | .sha256WithRsa => do
    let k ← keyLocator
    let period ← validity
    tail
    return .sha256WithRsa [] k period
  | .sha256WithEcdsa => do
    let k ← keyLocator
    let period ← validity
    tail
    return .sha256WithEcdsa [] k period
  | .other code => return .generic [] info (some code)

theorem scheme_eq (info : Bytes) : scheme info = (do
    let valueEnd ← enter ElementType.signatureInfo
    within valueEnd do
      let code ← integer ElementType.signatureType
      schemeFields info (.ofCode code)) := rfl

/-- The fields of a known scheme run up to the end. -/
theorem Exhausts.schemeFields (info : Bytes) {type : SignatureType}
    (hknown : ∀ code, type ≠ .other code) :
    Exhausts stop (schemeFields info type) (SchemeFields info type) := by
  cases type with
  | digestSha256 =>
    refine ((Accepts.tail.bind fun _ => .pure _).exhausts (.tail_pure _)).congr fun bytes s => ?_
    constructor
    · rintro ⟨es, rfl, -, -, ⟨-, htail⟩, rfl, -⟩
      exact .digestSha256 htail
    · rintro ⟨htail⟩
      exact ⟨_, rfl, (), [], ⟨rfl, htail⟩, rfl, rfl⟩
  | hmacWithSha256 =>
    refine (Accepts.keyLocator.exhausts_tail (Signature.hmacWithSha256 [])).congr fun bytes s => ?_
    constructor
    · rintro ⟨k, hk, rfl⟩
      exact .hmacWithSha256 hk
    · rintro (_ | hk)
      exact ⟨_, hk, rfl⟩
  | sha256WithRsa =>
    refine (Exhausts.keyFields (Signature.sha256WithRsa [])).congr fun bytes s => ?_
    constructor
    · rintro ⟨p, hp, rfl⟩
      exact .sha256WithRsa hp
    · rintro (_ | _ | hp)
      exact ⟨_, hp, rfl⟩
  | sha256WithEcdsa =>
    refine (Exhausts.keyFields (Signature.sha256WithEcdsa [])).congr fun bytes s => ?_
    constructor
    · rintro ⟨p, hp, rfl⟩
      exact .sha256WithEcdsa hp
    · rintro (_ | _ | _ | hp)
      exact ⟨_, hp, rfl⟩
  | other code => exact absurd rfl (hknown code)

theorem schemeFields_eq_ok_iff {info bytes : Bytes} {type : SignatureType} {s : Signature}
    {c last : Cursor} (hsize : last.offset < UInt64.size) (hmoves : c.Moves bytes last) :
    (∃ c', schemeFields info type last.offset c = .ok (s, c')) ↔ SchemeFields info type bytes s := by
  by_cases hother : ∃ code, type = .other code
  · obtain ⟨code, rfl⟩ := hother
    constructor
    · rintro ⟨c', ⟨⟩⟩
      exact .other
    · rintro (_ | _ | _ | _ | _)
      exact ⟨c, rfl⟩
  · have hfields : Exhausts last.offset (schemeFields info type) _ :=
      Exhausts.schemeFields info fun code h => hother ⟨code, h⟩
    constructor
    · rintro ⟨c', hread⟩
      exact (hfields.sound rfl hmoves hread).1
    · intro h
      exact ⟨last, hfields.complete rfl hsize hmoves h⟩

theorem value_eq_ok_iff {α : Type} {r : Reader α} {input : Bytes} {a : α} :
    r.value input = .ok a ↔ ∃ c, r.run input = .ok (a, c) := by
  rw [value]
  cases r.run input with
  | error e => exact iff_of_false (by rintro ⟨⟩) (by rintro ⟨_, ⟨⟩⟩)
  | ok p =>
    constructor
    · rintro ⟨⟩
      exact ⟨p.2, rfl⟩
    · rintro ⟨c, ⟨⟩⟩
      rfl

/-- What is read of the description of a scheme is told by the element that it starts with. -/
theorem scheme_eq_ok_iff {info : Bytes} (hsize : info.length < UInt64.size) {s : Signature} :
    (scheme info).value info = .ok s
      ↔ ∃ e rest, info = e.bytes ++ rest ∧ DescribesScheme info e s := by
  rw [value_eq_ok_iff, scheme_eq]
  constructor
  · rintro ⟨c', hread⟩
    obtain ⟨_, c₁, henter, hread⟩ := bind_eq_ok_iff.1 hread
    obtain ⟨e, c₂, htype, henters, rfl, hstop⟩ := header_sound (enter_eq_ok_iff.1 henter)
    obtain ⟨code, c₃, hinteger, hfields⟩ := bind_eq_ok_iff.1 hread
    obtain ⟨number, ⟨hnumber, hcode⟩, hmoves, hle⟩ := (AcceptsElement.integer _).sound hinteger
    obtain ⟨-, -, -, -, hvalue⟩ := id henters
    obtain ⟨rest, heq, hrest⟩ := hmoves.exists_append_of_le hvalue hle
    have hlt : c₂.offset < UInt64.size := Nat.lt_of_le_of_lt hstop hsize
    exact ⟨e, c₂.rest, henters.moves.rest_eq, .mk htype heq hnumber hcode
      ((schemeFields_eq_ok_iff hlt hrest).1 ⟨c', hfields⟩)⟩
  · rintro ⟨e, after, rfl, htype, hvalue, hnumber, hcode, hfields⟩
    have hmoves : Cursor.Moves ⟨0, e.bytes ++ after⟩ e.bytes ⟨e.bytes.length, after⟩ :=
      ⟨rfl, (Nat.zero_add _).symm⟩
    have hstop : e.bytes.length ≤ (e.bytes ++ after).length := by
      rw [List.length_append]
      exact Nat.le_add_right _ _
    have hlt := Nat.lt_of_le_of_lt hstop hsize
    obtain ⟨c₁, henters⟩ := hmoves.enters
    obtain ⟨-, -, -, -, hmovesValue⟩ := id henters
    rw [hvalue] at hmovesValue
    obtain ⟨c₃, hmovesNumber, hrest⟩ := hmovesValue.exists_between
    obtain ⟨c', hread⟩ := (schemeFields_eq_ok_iff hlt hrest).2 hfields
    have hheader := enter_eq_ok_iff.2 (header_complete henters hstop hsize)
    rw [htype] at hheader
    exact ⟨c', bind_eq_ok_iff.2 ⟨_, c₁, hheader, bind_eq_ok_iff.2 ⟨_, c₃,
      (AcceptsElement.integer _).complete ⟨hnumber, hcode⟩ hmovesNumber hrest.le hlt, hread⟩⟩⟩

end Reader

/-- A signature is decoded from two inputs that start with the description of its scheme and with the
element of its bytes. -/
theorem decodeSignature_eq_ok_iff {info value : Bytes} (hinfo : info.length < UInt64.size)
    (hvalue : value.length < UInt64.size) {s : Signature} :
    decodeSignature info value = .ok s ↔ ∃ (e e' : Element) (rest rest' : Bytes) (s' : Signature),
      info = e.bytes ++ rest ∧ DescribesScheme info e s' ∧ value = e'.bytes ++ rest'
        ∧ e'.type = ElementType.signatureValue ∧ s = s'.withBytes e'.value := by
  have hdecode : decodeSignature info value = .ok s ↔ ∃ s' bytes, (Reader.scheme info).value info = .ok s'
      ∧ (Reader.blob ElementType.signatureValue).value value = .ok bytes ∧ s = s'.withBytes bytes := by
    rw [decodeSignature]
    cases (Reader.scheme info).value info with
    | error e => exact iff_of_false (by rintro ⟨⟩) (by rintro ⟨_, _, ⟨⟩, -⟩)
    | ok s' =>
      cases (Reader.blob ElementType.signatureValue).value value with
      | error e => exact iff_of_false (by rintro ⟨⟩) (by rintro ⟨_, _, -, ⟨⟩, -⟩)
      | ok bytes =>
        constructor
        · rintro ⟨⟩
          exact ⟨s', bytes, rfl, rfl, rfl⟩
        · rintro ⟨_, _, ⟨⟩, ⟨⟩, rfl⟩
          rfl
  rw [hdecode]
  simp only [Reader.scheme_eq_ok_iff hinfo, Reader.value_eq_ok_iff,
    (Reader.AcceptsElement.blob ElementType.signatureValue).run_eq_ok_iff hvalue]
  constructor
  · rintro ⟨s', _, ⟨e, rest, heq, hscheme⟩, ⟨c, e', ⟨htype, rfl⟩, heq', -⟩, rfl⟩
    exact ⟨e, e', rest, c.rest, s', heq, hscheme, heq', htype, rfl⟩
  · rintro ⟨e, e', rest, rest', s', heq, hscheme, heq', htype, rfl⟩
    exact ⟨s', e'.value, ⟨e, rest, heq, hscheme⟩,
      ⟨⟨e'.bytes.length, rest'⟩, e', ⟨htype, rfl⟩, heq', rfl⟩, rfl⟩

/-- A signature is decoded from its two elements. -/
theorem decodeSignature_elements_iff {info bytes : Element} (hinfo : info.bytes.length < UInt64.size)
    (hbytes : bytes.bytes.length < UInt64.size) {s : Signature} :
    decodeSignature info.bytes bytes.bytes = .ok s ↔ bytes.type = ElementType.signatureValue
      ∧ ∃ s', DescribesScheme info.bytes info s' ∧ s = s'.withBytes bytes.value := by
  rw [decodeSignature_eq_ok_iff hinfo hbytes]
  constructor
  · rintro ⟨e, e', rest, rest', s', heq, hscheme, heq', htype, rfl⟩
    obtain ⟨rfl, -⟩ := Element.unique ((List.append_nil _).trans heq)
    obtain ⟨rfl, -⟩ := Element.unique ((List.append_nil _).trans heq')
    exact ⟨htype, s', hscheme, rfl⟩
  · rintro ⟨htype, s', hscheme, rfl⟩
    exact ⟨info, bytes, [], [], s', (List.append_nil _).symm, hscheme, (List.append_nil _).symm, htype,
      rfl⟩

/-! ## Data packets -/

/-- The fields of meta information. -/
inductive MetaInfoFields : Grammar MetaInfo where
  | mk {es es₁ es₂ rest : List Element} {contentType freshness : Option UInt64}
      {finalBlockId : Option Component}
      (hcontentType : Optional ElementType.contentType HoldsInteger es contentType es₁)
      (hfreshness : Optional ElementType.freshnessPeriod HoldsInteger es₁ freshness es₂)
      (hfinal : Optional ElementType.finalBlockId (Contains ComponentField) es₂ finalBlockId rest) :
      MetaInfoFields es {
        finalBlockId
        contentType := (contentType.map ContentType.ofCode).getD .blob
        freshnessPeriod := freshness.map Time.Duration.ofMillis } rest

/-- The fields of a Data packet, of which those from the bytes of the signature on are not signed. -/
inductive DataFields (unsigned : List Element) : Grammar Data where
  | mk {es es₁ es₂ rest : List Element} {info bytes : Element} {name : Name}
      {metaInfo : Option MetaInfo} {content : Option Bytes} {signature : Signature}
      (hname : Required ElementType.name HoldsName es name es₁)
      (hmetaInfo : Optional ElementType.metaInfo (Contains MetaInfoFields) es₁ metaInfo es₂)
      (hcontent : Optional ElementType.content HoldsBytes es₂ content (info :: unsigned))
      (hscheme : DescribesScheme info.bytes info signature)
      (hunsigned : unsigned = bytes :: rest) (hbytes : bytes.type = ElementType.signatureValue) :
      DataFields unsigned es {
        name
        metaInfo := metaInfo.getD {}
        content := content.getD []
        signature := signature.withBytes bytes.value } rest

/-- The bytes are one Data packet. All from its name to the description of the scheme is signed. -/
inductive DataPacket (blob : SignedBlob) (d : Data) : Prop where
  | mk {e : Element} {signed unsigned rest : List Element}
      (htype : e.type = ElementType.data) (hbytes : blob.bytes = e.bytes)
      (hvalue : HoldsElements e (signed ++ unsigned))
      (hfields : DataFields unsigned (signed ++ unsigned) d rest) (htail : IsTail rest)
      (hsigned : blob.Signs (concat signed) (concat unsigned))

/-- The unsigned elements are the last ones. -/
theorem DataFields.suffix {unsigned es rest : List Element} {d : Data}
    (h : DataFields unsigned es d rest) : unsigned <:+ es := by
  obtain ⟨hname, hmetaInfo, hcontent, -, -, -⟩ := h
  exact (List.suffix_cons _ _).trans
    (hcontent.suffix.trans (hmetaInfo.suffix.trans hname.suffix))

namespace Reader

variable {stop : Nat}

protected theorem Accepts.metaInfo : Accepts stop metaInfo MetaInfoFields := by
  refine ((AcceptsElement.integer ElementType.contentType).optional.bind fun contentType =>
    (AcceptsElement.integer ElementType.freshnessPeriod).optional.bind fun freshness =>
    (AcceptsElement.nested (fun _ => AcceptsElement.component.next)
      ElementType.finalBlockId).optional.bind fun finalBlockId => .pure _).congr fun es m rest => ?_
  constructor
  · rintro ⟨contentType, es₁, hcontentType, freshness, es₂, hfreshness, finalBlockId, es₃, hfinal, rfl,
      rfl⟩
    exact .mk hcontentType hfreshness hfinal
  · rintro ⟨hcontentType, hfreshness, hfinal⟩
    exact ⟨_, _, hcontentType, _, _, hfreshness, _, _, hfinal, rfl, rfl⟩

/-- A Data packet with the offsets of its name and of the bytes of the signature. -/
protected theorem AcceptsElement.data : AcceptsElement data fun offset e p =>
    ∃ es unsigned rest : List Element, e.type = ElementType.data ∧ HoldsElements e es
      ∧ DataFields unsigned es p.1 rest ∧ IsTail rest
      ∧ p.2.1 + (concat es).length = offset + e.bytes.length
      ∧ p.2.2 + (concat unsigned).length = offset + e.bytes.length := by
  refine (AcceptsElement.nested (fun stop => Accepts.offset.bind fun signedBegin =>
    AcceptsElement.name.required.bind fun name =>
    (AcceptsElement.nested (fun _ => Accepts.metaInfo) ElementType.metaInfo).optional.bind fun metaInfo =>
    (AcceptsElement.blob ElementType.content).optional.bind fun content =>
    (AcceptsElement.verbatim ElementType.signatureInfo).required.bind fun info =>
    Accepts.offset.bind fun signedEnd =>
    (AcceptsElement.verbatim ElementType.signatureValue).required.bind fun value =>
    (Accepts.idle (.lift (decodeSignature info.2 value.2))).bind fun signature => .pure _)
    ElementType.data).congr ?_
  intro offset e p
  -- the elements of the signature are a part of the packet, whose length is a number of 64 bits
  have hsize : e.value.length < UInt64.size := by
    obtain ⟨-, -, hsize, -⟩ := e.isElement
    exact hsize
  have hshort {es es₁ es₂ rest : List Element} {info bytes : Element} {name : Name}
      {metaInfo : Option MetaInfo} {content : Option Bytes} (hvalue : HoldsElements e es)
      (hname : Required ElementType.name HoldsName es name es₁)
      (hmetaInfo : Optional ElementType.metaInfo (Contains MetaInfoFields) es₁ metaInfo es₂)
      (hcontent : Optional ElementType.content HoldsBytes es₂ content (info :: bytes :: rest)) :
      info.bytes.length < UInt64.size ∧ bytes.bytes.length < UInt64.size := by
    obtain ⟨before, rfl⟩ := hcontent.suffix.trans (hmetaInfo.suffix.trans hname.suffix)
    rw [hvalue] at hsize
    simp only [Element.concat_append, Element.concat_cons, List.length_append] at hsize
    constructor <;> omega
  constructor
  · rintro ⟨htype, _, rest, hvalue, ⟨signedBegin, es, ⟨hbegin, rfl⟩, name, es₁, hname, metaInfo, es₂,
      hmetaInfo, content, es₃, hcontent, _, _, ⟨info, rfl, hinfo, rfl⟩, signedEnd, unsigned,
      ⟨hend, rfl⟩, _, es₅, ⟨bytes, rfl, hbytes, rfl⟩, signature, es₆, ⟨hsignature, rfl⟩, rfl, rfl⟩,
      htail⟩
    obtain ⟨hinfoShort, hbytesShort⟩ := hshort hvalue hname hmetaInfo hcontent
    obtain ⟨-, s', hscheme, rfl⟩ := (decodeSignature_elements_iff hinfoShort hbytesShort).1 hsignature
    exact ⟨es, _, _, htype, hvalue, .mk hname hmetaInfo hcontent hscheme rfl hbytes, htail, hbegin,
      hend⟩
  · rintro ⟨es, unsigned, rest, htype, hvalue, hfields, htail, hbegin, hend⟩
    obtain ⟨d, signedBegin, signedEnd⟩ := p
    obtain ⟨hname, hmetaInfo, hcontent, hscheme, rfl, hbytes⟩ := hfields
    obtain ⟨hinfoShort, hbytesShort⟩ := hshort hvalue hname hmetaInfo hcontent
    have hsignature := (decodeSignature_elements_iff hinfoShort hbytesShort).2 ⟨hbytes, _, hscheme, rfl⟩
    obtain ⟨hinfo, -⟩ := id hscheme
    exact ⟨htype, es, _, hvalue, ⟨signedBegin, es, ⟨hbegin, rfl⟩, _, _, hname, _, _, hmetaInfo, _, _,
      hcontent, _, _, ⟨_, rfl, hinfo, rfl⟩, signedEnd, _, ⟨hend, rfl⟩, _, _, ⟨_, rfl, hbytes, rfl⟩, _, _,
      ⟨hsignature, rfl⟩, rfl, rfl⟩, htail⟩

end Reader

/-! ## Decoding -/

theorem decodeData_eq_ok_iff {input : Bytes} (hsize : input.length < UInt64.size) {d : Data}
    {blob : SignedBlob} : decodeData input = .ok (d, blob)
      ↔ DataPacket blob d ∧ ∃ rest, input = blob.bytes ++ rest := by
  refine (run_packet_eq_ok_iff .data hsize).trans ?_
  have hsigns {e : Element} {signed unsigned : List Element} (hbytes : blob.bytes = e.bytes)
      (hvalue : HoldsElements e (signed ++ unsigned)) : blob.Signs (concat signed) (concat unsigned)
        ↔ blob.signedBegin + (concat (signed ++ unsigned)).length = 0 + e.bytes.length
          ∧ blob.signedEnd + (concat unsigned).length = 0 + e.bytes.length := by
    obtain ⟨head, -, -, he⟩ := e.isElement
    have hsplit : blob.bytes = head ++ (concat signed ++ concat unsigned) := by
      rw [hbytes, he, hvalue, Element.concat_append]
    rw [SignedBlob.signs_iff hsplit, hbytes, Element.concat_append, List.length_append, Nat.zero_add]
    omega
  constructor
  · rintro ⟨e, ⟨es, unsigned, rest, htype, hvalue, hfields, htail, hrange⟩, hbytes, hinput⟩
    obtain ⟨signed, rfl⟩ := hfields.suffix
    exact ⟨.mk htype hbytes hvalue hfields htail ((hsigns hbytes hvalue).2 hrange), hinput⟩
  · rintro ⟨⟨htype, hbytes, hvalue, hfields, htail, hsigned⟩, hinput⟩
    exact ⟨_, ⟨_, _, _, htype, hvalue, hfields, htail, (hsigns hbytes hvalue).1 hsigned⟩, hbytes,
      hinput⟩

/-- The inputs within the size limit that are decoded to a Data packet are those that start with a
packet of the grammar, which tells the fields and the signed range. -/
theorem decodeData_iff_packet (config : PacketConfig) (input : Bytes)
    (hsize : input.length ≤ config.maxPacketSize.toNat) (d : Data) (blob : SignedBlob) :
    (WireFormat.tlv config).decodeData input = .ok (d, blob)
      ↔ DataPacket blob d ∧ ∃ rest, input = blob.bytes ++ rest := by
  have hlt : input.length < UInt64.size := Nat.lt_of_le_of_lt hsize config.maxPacketSize.toNat_lt
  show withinSize config decodeData input = _ ↔ _
  rw [withinSize_of_le hsize, decodeData_eq_ok_iff hlt]

/-- The bytes of a packet `/a` under a keyed digest, with unknown elements after the fields of the meta
information, the key locator, the description of the scheme and the packet. The number of the scheme
and the type of the signature's bytes are in wide forms. -/
def tailedDataBlob : SignedBlob where
  bytes := [0x06, 0x24, 0x07, 0x03, 0x08, 0x01, 0x61, 0x14, 0x06, 0x19, 0x02, 0x03, 0xe8, 0x80, 0x00,
    0x16, 0x0e, 0x1b, 0x02, 0x00, 0x04, 0x1c, 0x05, 0x1d, 0x01, 0xaa, 0x80, 0x00, 0x82, 0x01, 0xff,
    0xfd, 0x00, 0x17, 0x01, 0x03, 0x84, 0x00]
  signedBegin := 2
  signedEnd := 31

def tailedData : Data where
  name := ⟨[.generic [0x61]]⟩
  metaInfo := { freshnessPeriod := some ⟨1000000000⟩ }
  signature := .hmacWithSha256 [0x03] (.digest [0xaa])

theorem decodeData_iff_packet_tailed : DataPacket tailedDataBlob tailedData := by
  have hdecode : (WireFormat.tlv {}).decodeData (tailedDataBlob.bytes ++ [0x06, 0xff])
      = .ok (tailedData, tailedDataBlob) := eq_ok_of_toOption (by decide +kernel)
  have hiff := decodeData_iff_packet {} (tailedDataBlob.bytes ++ [0x06, 0xff]) (by decide) tailedData
    tailedDataBlob
  exact (hiff.1 hdecode).1

end NamedData.Wire
