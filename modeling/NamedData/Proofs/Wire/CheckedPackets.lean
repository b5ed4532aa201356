import NamedData.Proofs.Wire.Checked

/-!
# Packets read with checks

The readers of names, packets and control messages, made of readers that check themselves, and that
each of them follows the reader that it is made after. A packet is read together with its signed
range, which must lie in the bytes that the packet takes up.
-/

namespace NamedData.Wire.Checked

/-! ## Names -/

/-- Reads a component. -/
def component : Checked Component := do
  let (type, value) ← any
  return ⟨.ofCode type, value⟩

/-- Reads a component and the offset at which it starts. -/
def componentAt : Checked (Nat × Component) := do
  let start ← offset
  return (start, ← component)

/-- Reads a name and the offsets of its value and of its last component. -/
def nameRange : Checked (Name × Nat × Nat) :=
  nested ElementType.name do
    let start ← offset
    let components ← many componentAt
    return (⟨components.map Prod.snd⟩, start, (components.getLast?.map Prod.fst).getD start)

/-- Reads a name. -/
def name : Checked Name :=
  Prod.fst <$> nameRange

/-! ## Key locators and signatures -/

/-- Reads the value of a key locator. -/
def keyLocatorValue : Checked KeyLocator := do
  match ← optional ElementType.name name with
  | some n => return .name n .unspecified
  | none =>
    match ← optional ElementType.keyLocatorDigest (blob ElementType.keyLocatorDigest) with
    | some bytes => return .digest bytes
    | none => return .absent

/-- Reads an instant. -/
def time (type : UInt64) : Checked Time.Instant := do
  let value ← blob type
  lift (.ok (decodeTime value))

/-- Reads a key locator if one is next. -/
def keyLocator : Checked KeyLocator := do
  let locator ← optionalNested ElementType.keyLocator keyLocatorValue
  return locator.getD .absent

/-- Reads a validity period if one is next. -/
def validity : Checked ValidityPeriod := do
  let bounds ← optionalNested ElementType.validityPeriod do
    let first ← time ElementType.notBefore
    let last ← time ElementType.notAfter
    return (first, last)
  return ⟨bounds⟩

/-- Reads the description of a scheme, which `info` holds. -/
def scheme (info : Bytes) : Checked Signature := do
  let last ← enter ElementType.signatureInfo
  within last do
    let code ← integer ElementType.signatureType
    match SignatureType.ofCode code with
    | .digestSha256 =>
      tail
      return .digestSha256 []
    | .hmacWithSha256 =>
      let k ← keyLocator
      tail
      return .hmacWithSha256 [] k
    | .sha256WithRsa =>
      let k ← keyLocator
      let period ← validity
      tail
      return .sha256WithRsa [] k period
    | .sha256WithEcdsa =>
      let k ← keyLocator
      let period ← validity
      tail
      return .sha256WithEcdsa [] k period
    | .other code => return .generic [] info (some code)

/-- Decodes a signature from its two elements, each an input of its own. -/
def decodeSignature (info value : Bytes) : Outcome Signature :=
  match (scheme info).value info with
  | .ok (.ok signature) =>
    match (blob ElementType.signatureValue).value value with
    | .ok (.ok bytes) => .ok (.ok (signature.withBytes bytes))
    | .ok (.error e) => .ok (.error e)
    | .error fault => .error fault
  | .ok (.error e) => .ok (.error e)
  | .error fault => .error fault

/-! ## Interests -/

/-- Reads a number of 32 bits if the next element has the given type. -/
def optionalInteger32 (type : UInt64) : Checked (Option UInt32) := do
  match ← optional type (integer type) with
  | none => return none
  | some n =>
    if n.toNat < UInt32.size then return some n.toUInt32
    else fail (.invalidValue (.exceeds32Bits n))

/-- Reads an entry of an exclude. -/
def excludeEntry : Checked ExcludeEntry := do
  let (type, value) ← any
  return if type = ElementType.any then .any else .component ⟨.ofCode type, value⟩

/-- Reads a child selector. -/
def childSelector : Checked ChildSelector := do
  let code ← integer ElementType.childSelector
  match ChildSelector.ofCode? code with
  | some selector => return selector
  | none => fail (.invalidValue (.unknownChildSelector code))

/-- Reads the value of the selectors. -/
def selectors : Checked Selectors := do
  let minSuffixComponents ← optionalInteger32 ElementType.minSuffixComponents
  let maxSuffixComponents ← optionalInteger32 ElementType.maxSuffixComponents
  let locator ← optionalNested ElementType.publisherPublicKeyLocator keyLocatorValue
  let entries ← optionalNested ElementType.exclude (many excludeEntry)
  let childSelector ← optional ElementType.childSelector childSelector
  let fresh ← optional ElementType.mustBeFresh (blob ElementType.mustBeFresh)
  return {
    minSuffixComponents, maxSuffixComponents, childSelector
    keyLocator := locator.getD .absent
    exclude := ⟨entries.getD []⟩
    mustBeFresh := fresh.isSome }

/-- Reads an Interest and its signed range. -/
def interest : Checked (Interest × Nat × Nat) :=
  nested ElementType.interest do
    let (name, signedBegin, signedEnd) ← nameRange
    let selectors ← optionalNested ElementType.selectors selectors
    let nonce ← blob ElementType.nonce
    let scope ← optionalInteger32 ElementType.scope
    let lifetime ← optional ElementType.interestLifetime (integer ElementType.interestLifetime)
    let link ← optional ElementType.data (withBytes (blob ElementType.data))
    let selectedDelegation ← optionalInteger32 ElementType.selectedDelegation
    let s := selectors.getD {}
    return ({
      name, nonce, scope, selectedDelegation
      minSuffixComponents := s.minSuffixComponents
      maxSuffixComponents := s.maxSuffixComponents
      keyLocator := s.keyLocator
      exclude := s.exclude
      childSelector := s.childSelector
      answerOrigin := if s.mustBeFresh then none else some .stale
      lifetime := lifetime.map Time.Duration.ofMillis
      link := (link.map Prod.snd).getD [] }, signedBegin, signedEnd)

/-! ## Data packets -/

/-- Reads the value of meta information. -/
def metaInfo : Checked MetaInfo := do
  let code ← optional ElementType.contentType (integer ElementType.contentType)
  let freshness ← optional ElementType.freshnessPeriod (integer ElementType.freshnessPeriod)
  let finalBlockId ← optionalNested ElementType.finalBlockId component
  return {
    finalBlockId
    contentType := (code.map ContentType.ofCode).getD .blob
    freshnessPeriod := freshness.map Time.Duration.ofMillis }

/-- Reads a Data packet and its signed range. -/
def data : Checked (Data × Nat × Nat) :=
  nested ElementType.data do
    let signedBegin ← offset
    let name ← name
    let metaInfo ← optionalNested ElementType.metaInfo metaInfo
    let content ← optional ElementType.content (blob ElementType.content)
    let (_, info) ← withBytes (blob ElementType.signatureInfo)
    let signedEnd ← offset
    let (_, value) ← withBytes (blob ElementType.signatureValue)
    let signature ← lift (decodeSignature info value)
    return ({
      name, signature
      metaInfo := metaInfo.getD {}
      content := content.getD [] }, signedBegin, signedEnd)

/-! ## Delegations and control messages -/

/-- Reads a delegation. -/
def delegation : Checked Delegation :=
  nested ElementType.linkDelegation do
    let preference ← integer ElementType.linkPreference
    let name ← name
    return ⟨preference, name⟩

/-- Reads a list of delegations that fills the input. -/
def delegations : Checked DelegationSet :=
  DelegationSet.mk <$> many delegation

/-- Reads a text. -/
def text (field : TextField) (type : UInt64) : Checked String := do
  let value ← blob type
  String.ofList <$> lift (.ok (decodeText field value))

/-- Reads a number if the next element has the given type. -/
def optionalInteger (type : UInt64) : Checked (Option UInt64) :=
  optional type (integer type)

/-- Reads a refusal. -/
def nack : Checked NetworkNack :=
  nested ElementType.networkNack do
    let code ← optionalInteger ElementType.nackReason
    return ⟨(code.map NackReason.ofCode).getD .unspecified⟩

/-- Reads parameters. -/
def parameters : Checked ControlParameters :=
  nested ElementType.controlParameters do
    let name ← optional ElementType.name name
    let faceId ← optionalInteger ElementType.faceId
    let uri ← optional ElementType.uri (text .uri ElementType.uri)
    let localControlFeature ← optionalInteger ElementType.localControlFeature
    let origin ← optionalInteger ElementType.origin
    let cost ← optionalInteger ElementType.cost
    let flags ← optionalInteger ElementType.flags
    let strategy ← optionalNested ElementType.strategy Checked.name
    let expiration ← optionalInteger ElementType.expirationPeriod
    return {
      name, faceId, uri, localControlFeature, origin, cost, strategy
      flags := (flags.map ForwardingFlags.mk).getD .initial
      expirationPeriod := expiration.map Time.Duration.ofMillis }

/-- Reads a response. -/
def response : Checked ControlResponse :=
  nested ElementType.controlResponse do
    let statusCode ← integer ElementType.statusCode
    let statusText ← text .statusText ElementType.statusText
    let body ← optional ElementType.controlParameters parameters
    return { statusCode, statusText, body }

/-! ## Packets with their bytes -/

/-- The bytes with their signed range, which must lie in them. -/
def signedBlob (bytes : Bytes) (signedBegin signedEnd : Nat) : Checked SignedBlob :=
  fun _ _ offset =>
    match SignedBlob.ofRange bytes signedBegin signedEnd with
    | .ok blob => .ok (.ok (blob, offset))
    | .error fault => .error (.signedRange fault)

/-- Reads a packet at the start of an input, and the part of the input that it takes up. -/
def packet {α : Type} (g : Checked (α × Nat × Nat)) : Checked (α × SignedBlob) := do
  let (a, signedBegin, signedEnd) ← g
  let bytes ← sliceFrom 0
  return (a, ← signedBlob bytes signedBegin signedEnd)

/-- Decodes an input unless it is above the size limit. -/
def withinSize {α : Type} (config : PacketConfig) (decode : Bytes → Outcome α) (input : Bytes) :
    Outcome α :=
  match checkSize config input with
  | .ok () => decode input
  | .error e => .ok (.error e)

/-! ## What the readers follow -/

/-- The signed range of a packet that has been read up to an offset. -/
def Signs {α : Type} (p : α × Nat × Nat) (after : Nat) : Prop :=
  p.2.1 ≤ p.2.2 ∧ p.2.2 ≤ after

theorem Signs.mono {α : Type} {p : α × Nat × Nat} {after after' : Nat} (hle : after ≤ after')
    (h : Signs p after) : Signs p after' :=
  ⟨h.1, Nat.le_trans h.2 hle⟩

/-! ### Names -/

protected theorem Follows.component : Follows component 2 Reader.component :=
  .bind_left .any fun ⟨_, _⟩ => .pure _

/-- A component starts where the reader was. -/
theorem tallies_componentAt {input : Bytes} {stop offset : Nat} (h : Inside input stop offset) :
    Tallies input (fun a after => offset < after ∧ after ≤ stop ∧ offset ≤ a.1 ∧ a.1 ≤ after)
      (componentAt input stop offset) (Reader.componentAt stop (.ofOffset input offset)) := by
  refine .bind .offset ?_
  rintro _ _ ⟨rfl, rfl⟩
  exact .bind (Follows.component.tallies h) fun c after hafter => .pure (by dsimp only; omega)

/-- The last component of a name starts in its value. -/
theorem tallies_nameRange {input : Bytes} {stop offset : Nat} (h : Inside input stop offset) :
    Tallies input (fun p after => offset + 2 ≤ after ∧ after ≤ stop ∧ Signs p after)
      (nameRange input stop offset) (Reader.nameRange stop (.ofOffset input offset)) := by
  refine .nested ElementType.name h (fun _ _ _ hle => Signs.mono hle) fun last start hinside => ?_
  refine .bind .offset ?_
  rintro _ _ ⟨rfl, rfl⟩
  have hcomponents := Tallies.many (P := fun a first last => first ≤ Prod.fst a ∧ Prod.fst a ≤ last)
    (fun _ _ _ _ _ hfirst hlast hin => ⟨Nat.le_trans hfirst hin.1, Nat.le_trans hin.2 hlast⟩)
    (fun _ => tallies_componentAt) hinside
  refine .bind hcomponents fun components after hafter => .pure ⟨hafter.1, hafter.2.1, ?_⟩
  cases hget : components.getLast? with
  | none => exact ⟨Nat.le_refl _, hafter.1⟩
  | some a => exact hafter.2.2 a (List.mem_of_getLast? hget)

namespace Follows

protected theorem nameRange : Follows nameRange 2 Reader.nameRange where
  tallies hinside := (tallies_nameRange hinside).weaken fun _ _ hafter => ⟨hafter.1, hafter.2.1⟩

protected theorem name : Follows name 0 Reader.name :=
  .map Prod.fst .nameRange

/-! ### Key locators and signatures -/

protected theorem keyLocatorValue : Follows keyLocatorValue 0 Reader.keyLocatorValue := by
  refine .bind (.optional _ .name) fun n => ?_
  cases n with
  | some n => exact .pure _
  | none =>
    refine .bind (.optional _ (.blob _)) fun bytes => ?_
    cases bytes with
    | some bytes => exact .pure _
    | none => exact .pure _

protected theorem time (type : UInt64) : Follows (time type) 0 (Reader.time type) :=
  .bind (.blob type) fun _ => .lift _

protected theorem keyLocator : Follows keyLocator 0 Reader.keyLocator :=
  .bind (.optionalNested _ .keyLocatorValue) fun _ => .pure _

protected theorem validity : Follows validity 0 Reader.validity :=
  .bind (.optionalNested _ (.bind (.time _) fun _ => .bind (.time _) fun _ => .pure _)) fun _ =>
    .pure _

protected theorem scheme (info : Bytes) : Follows (scheme info) 2 (Reader.scheme info) := by
  refine .inside _ (.bind (.integer _) fun code => ?_)
  cases SignatureType.ofCode code with
  | digestSha256 => exact .bind .tail fun _ => .pure _
  | hmacWithSha256 => exact .bind .keyLocator fun _ => .bind .tail fun _ => .pure _
  | sha256WithRsa | sha256WithEcdsa =>
    exact .bind .keyLocator fun _ => .bind .validity fun _ => .bind .tail fun _ => .pure _
  | other code => exact .pure _

/-! ### Interests -/

protected theorem optionalInteger32 (type : UInt64) :
    Follows (optionalInteger32 type) 0 (Reader.optionalInteger32 type) := by
  refine .bind (.optional _ (.integer _)) fun n => ?_
  cases n with
  | none => exact .pure _
  | some n => exact .ite (.pure _) (.fail _)

protected theorem excludeEntry : Follows excludeEntry 2 Reader.excludeEntry :=
  .bind_left .any fun ⟨_, _⟩ => .pure _

protected theorem childSelector : Follows childSelector 0 Reader.childSelector := by
  refine .bind (.integer _) fun code => ?_
  cases ChildSelector.ofCode? code with
  | none => exact .fail _
  | some selector => exact .pure _

protected theorem selectors : Follows selectors 0 Reader.selectors := by
  refine .bind (.optionalInteger32 _) fun _ => ?_
  refine .bind (.optionalInteger32 _) fun _ => ?_
  refine .bind (.optionalNested _ .keyLocatorValue) fun _ => ?_
  refine .bind (.optionalNested _ (.many .excludeEntry (by decide))) fun _ => ?_
  refine .bind (.optional _ .childSelector) fun _ => ?_
  refine .bind (.optional _ (.blob _)) fun _ => ?_
  exact .pure _

/-! ### Data packets -/

protected theorem metaInfo : Follows metaInfo 0 Reader.metaInfo := by
  refine .bind (.optional _ (.integer _)) fun _ => ?_
  refine .bind (.optional _ (.integer _)) fun _ => ?_
  refine .bind (.optionalNested _ .component) fun _ => ?_
  exact .pure _

/-! ### Delegations and control messages -/

protected theorem delegation : Follows delegation 2 Reader.delegation :=
  .nested _ (.bind (.integer _) fun _ => .bind .name fun _ => .pure _)

protected theorem text (field : TextField) (type : UInt64) :
    Follows (text field type) 0 (Reader.text field type) :=
  .bind (.blob type) fun _ => .map _ (.lift _)

protected theorem optionalInteger (type : UInt64) :
    Follows (optionalInteger type) 0 (Reader.optionalInteger type) :=
  .optional type (.integer type)

protected theorem nack : Follows nack 2 Reader.nack :=
  .nested _ (.bind (.optionalInteger _) fun _ => .pure _)

protected theorem parameters : Follows parameters 2 Reader.parameters := by
  refine .nested _ (.bind (.optional _ .name) fun _ => ?_)
  refine .bind (.optionalInteger _) fun _ => ?_
  refine .bind (.optional _ (.text _ _)) fun _ => ?_
  refine .bind (.optionalInteger _) fun _ => ?_
  refine .bind (.optionalInteger _) fun _ => ?_
  refine .bind (.optionalInteger _) fun _ => ?_
  refine .bind (.optionalInteger _) fun _ => ?_
  refine .bind (.optionalNested _ .name) fun _ => ?_
  refine .bind (.optionalInteger _) fun _ => ?_
  exact .pure _

protected theorem response : Follows response 2 Reader.response := by
  refine .nested _ (.bind (.integer _) fun _ => ?_)
  refine .bind (.text _ _) fun _ => ?_
  refine .bind (.optional _ .parameters) fun _ => ?_
  exact .pure _

end Follows

/-! ### Packets and their signed ranges -/

/-- A reader of packets finds a signed range in what it has read. -/
structure Frames {α : Type} (g : Checked (α × Nat × Nat)) (r : Reader (α × Nat × Nat)) : Prop where
  tallies {input : Bytes} {stop offset : Nat} : Inside input stop offset →
    Tallies input (fun p after => offset + 2 ≤ after ∧ after ≤ stop ∧ Signs p after)
      (g input stop offset) (r stop (.ofOffset input offset))

theorem frames_interest : Frames interest Reader.interest where
  tallies {input stop offset} h := by
    refine .nested _ h (fun _ _ _ => Signs.mono) fun last start h₀ => ?_
    refine .bind (tallies_nameRange h₀) fun p after hname => ?_
    obtain ⟨name, signedBegin, signedEnd⟩ := p
    have h₁ := h₀.move hname.2.1
    refine Follows.tallies_bind (.optionalNested _ .selectors) h₁ fun _ _ hle₂ h₂ => ?_
    refine Follows.tallies_bind (.blob _) h₂ fun _ _ hle₃ h₃ => ?_
    refine Follows.tallies_bind (.optionalInteger32 _) h₃ fun _ _ hle₄ h₄ => ?_
    refine Follows.tallies_bind (.optional _ (.integer _)) h₄ fun _ _ hle₅ h₅ => ?_
    refine Follows.tallies_bind (.optional _ (.withBytes (.blob _))) h₅ fun _ _ hle₆ h₆ => ?_
    refine Follows.tallies_bind (.optionalInteger32 _) h₆ fun _ final hle₇ h₇ => ?_
    exact .pure ⟨by omega, h₇.le_stop, hname.2.2.mono (by omega)⟩

theorem decodeSignature_eq {info value : Bytes} (hinfo : Addressable info)
    (hvalue : Addressable value) :
    decodeSignature info value = .ok (Wire.decodeSignature info value) := by
  rw [decodeSignature, (Follows.scheme info).value_eq hinfo, (Follows.blob _).value_eq hvalue]
  unfold Wire.decodeSignature
  cases (Reader.scheme info).value info with
  | error e => rfl
  | ok signature =>
    cases (Reader.blob ElementType.signatureValue).value value with
    | error e => rfl
    | ok bytes => rfl

theorem frames_data : Frames data Reader.data where
  tallies {input stop offset} h := by
    refine .nested _ h (fun _ _ _ => Signs.mono) fun last start h₀ => ?_
    refine .bind .offset ?_
    rintro _ _ ⟨rfl, rfl⟩
    refine Follows.tallies_bind .name h₀ fun _ _ hle₁ h₁ => ?_
    refine Follows.tallies_bind (.optionalNested _ .metaInfo) h₁ fun _ _ hle₂ h₂ => ?_
    refine Follows.tallies_bind (.optional _ (.blob _)) h₂ fun _ _ hle₃ h₃ => ?_
    refine .bind (Follows.tallies_withBytes (.blob _) h₃) fun p after₄ hinfo => ?_
    obtain ⟨_, info⟩ := p
    have h₄ := h₃.move hinfo.1.2
    refine .bind .offset ?_
    rintro _ _ ⟨rfl, rfl⟩
    refine .bind (Follows.tallies_withBytes (.blob _) h₄) fun p after₅ hvalue => ?_
    obtain ⟨_, value⟩ := p
    refine .bind (.lift (decodeSignature_eq hinfo.2 hvalue.2)) ?_
    rintro signature _ rfl
    exact .pure ⟨by omega, hvalue.1.2, by dsimp only; omega, by dsimp only; omega⟩

/-! ### Reading an input -/

/-- A packet that is read from an addressable input, without a fault. -/
theorem packet_value_eq {α : Type} {g : Checked (α × Nat × Nat)} {r : Reader (α × Nat × Nat)}
    (h : Frames g r) {input : Bytes} (haddr : Addressable input) :
    (packet g).value input = .ok (do
      let ((a, signedBegin, signedEnd), c) ← r.run input
      return (a, (⟨input.take c.offset, signedBegin, signedEnd⟩ : SignedBlob))) := by
  unfold value run Reader.run packet
  cases h.tallies (Follows.inside_start haddr) with
  | error e hx hy =>
    have hread : r input.length ⟨0, input⟩ = .error e := hy
    simp only [bind, Checked.bind, hx, hread, Except.bind]
    rfl
  | ok p after hx hy hp =>
    have hread : r input.length ⟨0, input⟩ = .ok (p, .ofOffset input after) := hy
    obtain ⟨a, signedBegin, signedEnd⟩ := p
    obtain ⟨-, hafter, hsigned⟩ := hp
    have hlength : (input.take after).length = after := by
      rw [List.length_take]
      omega
    have hrange : SignedBlob.ofRange (input.take after) signedBegin signedEnd
        = .ok ⟨input.take after, signedBegin, signedEnd⟩ :=
      if_pos ⟨hsigned.1, hlength.symm ▸ hsigned.2⟩
    have hslice : slice input 0 after = .ok (input.take after) :=
      Tallies.slice_eq (Nat.zero_le _) hafter
    simp only [bind, Checked.bind, hx, hread, Except.bind, sliceFrom, hslice, Except.map, signedBlob,
      hrange]
    rfl

end NamedData.Wire.Checked
