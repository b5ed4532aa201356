import NamedData.Live.Interest
import NamedData.Proofs.Live.Data

/-!
# Operations on Interests

Each operation on an Interest has one of the effects that an operation on a packet can have, and
leaves parts that are recalled. The nonce is kept like the encoding, with the count for which it
holds.
-/

namespace NamedData.LiveInterest

open Observed Recorded Recalling LivePacket LawfulLivePacket

/-! ## Interests are made -/

/-- The parts are made in turn, and the count is drawn last. -/
theorem built_make {v : Interest} {n n' : Count} {i : LiveInterest} (h : make v n = (i, n')) :
    Built n ((v.name, v.keyLocator), v.exclude) i.count (parts i) ∧ n' = i.count + 1 := by
  cases h
  exact ⟨((Stamped.built v.name n).prod (Tracked.built (LiveKeyLocator.made v.keyLocator _)
    (LiveKeyLocator.entered_make v.keyLocator _))).prod (Stamped.built v.exclude _), rfl⟩

/-- A nonce that is empty is answered as such whether or not it is kept for the count. -/
private theorem nonce_of_kept (nonce : Bytes) (count count' : Count) :
    (if (if nonce.isEmpty then count' else count) = count then nonce else []) = nonce := by
  cases hempty : nonce.isEmpty with
  | true =>
    rw [List.isEmpty_iff.1 hempty]
    exact ite_self []
  | false => simp

instance : LawfulLivePacket LiveInterest where
  view_put _ _ := rfl
  put_view _ := rfl
  view_recount _ _ := rfl
  nonce i := keptNonce i.nonce i.nonceCount
  nonce_put _ _ := rfl
  present i w :=
    { i.toInterestSettings with
      name := w.1.1
      keyLocator := w.1.2
      exclude := w.2
      nonce := if i.nonceCount = i.count then i.nonce else [] }
  present_put {c i} h w := by
    show ({ i.toInterestSettings with
      name := w.1.1
      keyLocator := w.1.2
      exclude := w.2
      nonce := if i.nonceCount = c.count then i.nonce else [] } : Interest) = _
    rw [h]
    rfl
  Encodes v blob := ∃ random, Wire.WireFormat.initial.encodeInterest random v = .ok blob
  nonceOf v := v.nonce
  partsOf v := ((v.name, v.keyLocator), v.exclude)
  built := built_make
  nonce_recount {v _ _ _} h count := by
    cases h
    show keptNonce v.nonce (if v.nonce.isEmpty then _ else count) = keptNonce v.nonce count
    unfold keptNonce
    cases v.nonce.isEmpty <;> rfl
  present_recount {v _ _ _} h count := by
    cases h
    exact congrArg (fun nonce : Bytes => ({ v with nonce } : Interest)) (nonce_of_kept v.nonce count _)

/-! ## Operations -/

/-- An operation on an Interest. -/
inductive Operation where
  | changeCount
  | nonce
  | wireEncode (random : Nat → UInt8)
  | setName (n : LiveName)
  | setKeyLocator (k : LiveKeyLocator)
  | setPublisherDigest (digest : Bytes)
  | setExclude (e : LiveExclude)
  | updateSettings (f : InterestSettings → InterestSettings)
  | setLink (l : LiveLink)
  | setNonce (bytes : Bytes)
  | name (c : Stamped.Change Name)
  | keyLocator (c : LiveKeyLocator.Change)
  | exclude (c : Stamped.Change Exclude)
  | wireDecode (input : Bytes)
  | wireDecodeWith (format : Wire.WireFormat) (input : Bytes)

namespace Operation

/-- What the operation is handed is at hand; of a link it matters only that it exists. -/
def Uses (n : Count) (stock : Stock) : Operation → Prop
  | setName n => stock.name n
  | setKeyLocator k => stock.keyLocator k
  | setExclude e => stock.exclude e
  | setLink l => Drawn n l.data
  | name c => c.Uses stock.name
  | keyLocator c => c.Uses stock
  | exclude c => c.Uses stock.exclude
  | changeCount | nonce | wireEncode _ | setPublisherDigest _ | updateSettings _ | setNonce _
  | wireDecode _ | wireDecodeWith _ _ => True

theorem uses_mono {n : Count} {stock stock' : Stock} {op : Operation} (hle : stock.Le stock')
    (h : op.Uses n stock) : op.Uses n stock' := by
  cases op with
  | setName n => exact hle.name n h
  | setKeyLocator k => exact hle.keyLocator k h
  | setExclude e => exact hle.exclude e h
  | setLink l => exact h
  | name c => exact Stamped.Change.uses_mono hle.name h
  | keyLocator c => exact LiveKeyLocator.Change.uses_mono hle h
  | exclude c => exact Stamped.Change.uses_mono hle.exclude h
  | changeCount | nonce | wireEncode | setPublisherDigest | updateSettings | setNonce | wireDecode
  | wireDecodeWith => trivial

/-- Carries out the operation and tells what is to be written into the log. -/
def perform : Operation → Edit LiveInterest (Option Deed)
  | changeCount => noteAsked NamedData.changeCount
  | nonce => noteAsked fields
  | wireEncode random => noteEncoded (LiveInterest.wireEncode random)
  | setName n => noteMove .set (LiveInterest.setName n)
  | setKeyLocator k => noteMove .set (LiveInterest.setKeyLocator k)
  | setPublisherDigest digest => noteMove .set (LiveInterest.setPublisherDigest digest)
  | setExclude e => noteMove .set (LiveInterest.setExclude e)
  | updateSettings f => noteMove .set (LiveInterest.updateSettings f)
  | setLink l => do
    let before := (← get).count
    match ← LiveInterest.setLink l with
    | .ok () => return some (.set ((← get).count != before))
    | .error _ => return none
  | setNonce bytes => noteMove (.nonceSet bytes) (LiveInterest.setNonce bytes)
  | name c => noteEdit (editName c.run)
  | keyLocator c => noteEdit (editKeyLocator c.run)
  | exclude c => noteEdit (editExclude c.run)
  | wireDecode input => noteReceived (fun v => v.nonce) input
  | wireDecodeWith format input => noteConverted (fun v => v.nonce) format input

end Operation

instance : Packet LiveInterest where
  Operation := Operation
  Uses n stock op := op.Uses n stock
  uses_mono := Operation.uses_mono
  create
    | none => make { name := .empty }
    | some n => withName n
  perform := Operation.perform
  shown i := [.part .name i.name.part, .part .keyLocator i.keyLocator.part,
    .part .exclude i.exclude.part]

/-! ## What operations do -/

section Lawful

theorem namePlace_lawful : namePlace.Lawful :=
  .left (.left .here)

theorem keyLocatorPlace_lawful : keyLocatorPlace.Lawful :=
  .left (.right .here)

theorem excludePlace_lawful : excludePlace.Lawful :=
  .right .here

theorem namePlace_splits : namePlace.Splits :=
  Place.splits_here.left.left

theorem keyLocatorPlace_splits : keyLocatorPlace.Splits :=
  Place.splits_here.right.left

theorem excludePlace_splits : excludePlace.Splits :=
  Place.splits_here.right

variable {n n' : Count} {L : Ledger} {i i' : LiveInterest} {w : (Name × KeyLocator) × Exclude}

/-- An answer is the encoding that the Interest keeps, or else a new one, and is kept. -/
theorem wireEncode_ok {random : Nat → UInt8} {blob : Wire.SignedBlob}
    (h : wireEncode random i n = ((.ok blob, i'), n')) :
    Answers (ChangeCounted.settle i n).1.2 blob
      ∧ i' = keeping (ChangeCounted.settle i n).1.2 blob ∧ n' = (ChangeCounted.settle i n).2 :=
  encodeOnce_ok rfl (fun hencode => ⟨random, hencode⟩) h

/-! ### Setters that draw other counts first -/

/-- The key locator is made first. -/
theorem effect_setPublisherDigest (hdrawn : Drawn n i) (digest : Bytes) :
    Effect n i (noteMove .set (setPublisherDigest digest) i n).1.1
      (noteMove .set (setPublisherDigest digest) i n).2
      (noteMove .set (setPublisherDigest digest) i n).1.2 :=
  effect_noteMove (assigned_put keyLocatorPlace_lawful hdrawn
    (Tracked.made_of_made (LiveKeyLocator.made (.ofDigest digest) n))) (nonce_withParts _ _ _)

/-- The link is encoded first. -/
theorem setLink_ok {l : LiveLink} {blob : Wire.SignedBlob} (i : LiveInterest)
    (h : (LiveLink.wireEncode l n).1.1 = .ok blob) :
    Operation.perform (.setLink l) i n =
      noteMove .set (updateSettings fun s => { s with link := blob.bytes }) i
        (LiveLink.wireEncode l n).2 := by
  simp only [Operation.perform, setLink, bind_edit_apply, get_edit_apply, lift_edit_apply, StateT.run,
    h]
  rfl

theorem setLink_error {l : LiveLink} {e : Wire.EncodingError} (i : LiveInterest)
    (h : (LiveLink.wireEncode l n).1.1 = .error e) :
    Operation.perform (.setLink l) i n = ((none, i), (LiveLink.wireEncode l n).2) := by
  simp only [Operation.perform, setLink, bind_edit_apply, get_edit_apply, lift_edit_apply, StateT.run,
    h]
  rfl

theorem effect_setLink (hdrawn : Drawn n i) {l : LiveLink} (hlink : Drawn n l.data) :
    Effect n i (Operation.perform (.setLink l) i n).1.1 (Operation.perform (.setLink l) i n).2
      (Operation.perform (.setLink l) i n).1.2 := by
  have hle : n ≤ (LiveLink.wireEncode l n).2 := LiveData.le_wireEncode hlink
  cases hresult : (LiveLink.wireEncode l n).1.1 with
  | ok blob =>
    rw [setLink_ok i hresult]
    exact effect_update rfl rfl hdrawn hle
  | error e =>
    rw [setLink_error i hresult]
    exact .nothing hle

theorem remembers_setLink (h : Recalls L (parts i) w) (l : LiveLink) :
    Remembers n L w (Operation.perform (.setLink l) i n).1.1
      (Operation.perform (.setLink l) i n).1.2 := by
  cases hresult : (LiveLink.wireEncode l n).1.1 with
  | ok blob =>
    rw [setLink_ok i hresult]
    exact remembers_noteSet (recalled_update rfl h _)
  | error e =>
    rw [setLink_error i hresult]
    exact (Recalled.kept h).unnoted

/-! ### The nonce -/

theorem effect_setNonce (hdrawn : Drawn n i) (nonce : Bytes) :
    Effect n i (noteMove (.nonceSet nonce) (setNonce nonce) i n).1.1
      (noteMove (.nonceSet nonce) (setNonce nonce) i n).2
      (noteMove (.nonceSet nonce) (setNonce nonce) i n).1.2 := by
  have hset : Assigned n i (n + 1) { i with nonce, count := n } :=
    assigned_update (f := fun i : LiveInterest => { i with nonce }) rfl hdrawn (Nat.le_refl n)
  have hpolled := polled hset.drawn
  obtain ⟨hdrawn', hle, hlt, hsettled, hcache⟩ := hset.polled hdrawn hpolled
  have hnonce := congrArg (fun i : LiveInterest => keptNonce i.nonce i.count) hpolled.put_eq
  exact .nonceSet ⟨hdrawn', hle, hlt, hsettled, hcache⟩ hpolled.settled hnonce.symm

theorem recalled_setNonce (hdrawn : Drawn n i) (h : Recalls L (parts i) w) (nonce : Bytes) :
    Recalled n L (setNonce nonce i n).1.2 := by
  have hdrawn' := drawn_mono (Nat.le_succ n) hdrawn.1
  obtain ⟨L', w', hagree, hw⟩ :=
    recalled_settle (p := { i with nonce, count := n }) (n := n + 1) h hdrawn'
  exact ⟨L', w', fun c hc => hagree c (Nat.lt_succ_of_lt hc), hw⟩

/-- A key locator that was made for the setter is recalled like one that was handed in. -/
theorem recalled_setPublisherDigest (hdrawn : Drawn n i) (h : Recalls L (parts i) w)
    (digest : Bytes) : Recalled n L (setPublisherDigest digest i n).1.2 := by
  have hmade := LiveKeyLocator.made (.ofDigest digest) n
  obtain ⟨L₁, hagree, hk⟩ := LiveKeyLocator.entered_make (.ofDigest digest) n L
  have hle := Nat.le_of_lt hmade.lt
  obtain ⟨L', w', hagree', hw⟩ := recalled_assign keyLocatorPlace_splits
    (Recalling.agree h hdrawn.1 hagree) (drawn_mono hle hdrawn.1) ⟨hmade.drawn, hk⟩
  exact ⟨L', w', hagree.trans hle hagree', hw⟩

/-! ### All operations -/

instance : LawfulPacket LiveInterest where
  created hname hcreate :=
    LawfulPacket.created_of_make (σ := LiveInterest) (v := { name := .empty }) namePlace_lawful
      namePlace_splits (fun _ => ⟨rfl, rfl⟩) rfl (fun _ _ => rfl) hname hcreate
  effect {n i op} hdrawn huses := by
    cases op with
    | changeCount | nonce => exact effect_noteAsked (polled hdrawn)
    | wireEncode random => exact effect_noteEncoded hdrawn fun _ _ h => ⟨random, h⟩
    | setName new => exact effect_assign namePlace_lawful hdrawn huses
    | setKeyLocator new => exact effect_assign keyLocatorPlace_lawful hdrawn huses
    | setPublisherDigest digest => exact effect_setPublisherDigest hdrawn digest
    | setExclude new => exact effect_assign excludePlace_lawful hdrawn huses
    | updateSettings f => exact effect_update rfl rfl hdrawn (Nat.le_refl n)
    | setLink l => exact effect_setLink hdrawn huses
    | setNonce bytes => exact effect_setNonce hdrawn bytes
    | name c => exact effect_noteEdit namePlace_lawful hdrawn (Stamped.Change.edited huses)
    | keyLocator c =>
      exact effect_noteEdit keyLocatorPlace_lawful hdrawn
        (LiveKeyLocator.Change.edited hdrawn.1.1.2.1 huses)
    | exclude c => exact effect_noteEdit excludePlace_lawful hdrawn (Stamped.Change.edited huses)
    | wireDecode input => exact effect_noteReceived hdrawn input
    | wireDecodeWith format input => exact effect_noteConverted hdrawn format input
  remembers {n L i w op} hdrawn h huses := by
    cases op with
    | changeCount | nonce => exact remembers_noteAsked (recalled_settle h hdrawn.1)
    | wireEncode random => exact remembers_noteEncoded (recalled_encodeOnce h hdrawn.1)
    | setName new =>
      exact remembers_noteSet (recalled_assign namePlace_splits h hdrawn.1 huses)
    | setKeyLocator new =>
      exact remembers_noteSet (recalled_assign keyLocatorPlace_splits h hdrawn.1 huses)
    | setPublisherDigest digest =>
      exact remembers_noteSet (recalled_setPublisherDigest hdrawn h digest)
    | setExclude new =>
      exact remembers_noteSet (recalled_assign excludePlace_splits h hdrawn.1 huses)
    | updateSettings f => exact remembers_noteSet (recalled_update rfl h n)
    | setLink l => exact remembers_setLink h l
    | setNonce bytes => exact remembers_noteMove (recalled_setNonce hdrawn h bytes) nofun
    | name c =>
      exact remembers_noteEdit (recalls_edit namePlace_lawful namePlace_splits h hdrawn.1
        fun _ => Stamped.Change.entered huses)
    | keyLocator c =>
      exact remembers_noteEdit (recalls_edit keyLocatorPlace_lawful keyLocatorPlace_splits h hdrawn.1
        fun hk => LiveKeyLocator.Change.entered hk hdrawn.1.1.2.1 huses)
    | exclude c =>
      exact remembers_noteEdit (recalls_edit excludePlace_lawful excludePlace_splits h hdrawn.1
        fun _ => Stamped.Change.entered huses)
    | wireDecode input => exact remembers_noteReceived (recalled_wireDecode h hdrawn input)
    | wireDecodeWith format input =>
      exact remembers_noteConverted (recalled_wireDecodeWith h format input)
  shown {n L i w x} hdrawn h hx := by
    simp only [Packet.shown, List.mem_cons, List.not_mem_nil, or_false] at hx
    rcases hx with rfl | rfl | rfl
    · exact ⟨hdrawn.1.1.1.1, h.1.1.1⟩
    · exact ⟨hdrawn.1.1.2.1, h.1.2.1⟩
    · exact ⟨hdrawn.1.2.1, h.2.1⟩

end Lawful

end NamedData.LiveInterest
