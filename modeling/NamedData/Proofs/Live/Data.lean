import NamedData.Live.Data
import NamedData.Proofs.Live.Coherence

/-!
# Operations on Data packets

Each operation on a Data packet has one of the effects that an operation on a packet can have, and
leaves parts that are recalled.
-/

namespace NamedData.LiveData

open Observed Recorded Recalling LivePacket LawfulLivePacket

/-! ## Packets are made -/

/-- The parts are made in turn, and the count is drawn last. -/
theorem built_make {v : Data} {n n' : Count} {d : LiveData} (h : make v n = (d, n')) :
    Built n ((v.name, v.metaInfo), v.signature) d.count (parts d) ∧ n' = d.count + 1 := by
  cases h
  exact ⟨((Stamped.built v.name n).prod (Stamped.built v.metaInfo _)).prod
    (Tracked.built (LiveSignature.made v.signature _) (LiveSignature.entered_make v.signature _)), rfl⟩

/-- A Data packet has no nonce. -/
instance : LawfulLivePacket LiveData where
  view_put _ _ := rfl
  put_view _ := rfl
  view_recount _ _ := rfl
  nonce _ := none
  nonce_put _ _ := rfl
  present d w := { name := w.1.1, metaInfo := w.1.2, content := d.content, signature := w.2 }
  present_put _ _ := rfl
  Encodes v blob := Wire.WireFormat.initial.encodeData v = .ok blob
  nonceOf _ := []
  partsOf v := ((v.name, v.metaInfo), v.signature)
  built := built_make
  nonce_recount _ _ := rfl
  present_recount h _ := by
    cases h
    rfl

/-- Asking for the count leaves the name, the meta information and the content. -/
theorem settle_keeps (d : LiveData) (n : Count) :
    (ChangeCounted.settle d n).1.2.toData.name = d.toData.name
      ∧ (ChangeCounted.settle d n).1.2.toData.metaInfo = d.toData.metaInfo
      ∧ (ChangeCounted.settle d n).1.2.content = d.content := by
  rw [settle_apply]
  exact ⟨Tracked.value_check _ _, Tracked.value_check _ _, rfl⟩

/-- Encoding a packet changes no more of its value than asking for its count does. -/
theorem toData_wireEncode (d : LiveData) (n : Count) :
    (wireEncode d n).1.2.toData = (ChangeCounted.settle d n).1.2.toData := by
  rw [wireEncode, encodeOnce_apply rfl]
  split
  · rfl
  · split <;> rfl

/-! ## Operations -/

/-- An operation on a Data packet. -/
inductive Operation where
  | changeCount
  | wireEncode
  | fullName
  | setName (n : LiveName)
  | setMetaInfo (m : LiveMetaInfo)
  | setSignature (s : LiveSignature)
  | setContent (content : Bytes)
  | name (c : Stamped.Change Name)
  | metaInfo (c : Stamped.Change MetaInfo)
  | signature (c : LiveSignature.Change)
  | wireDecode (input : Bytes)
  | wireDecodeWith (format : Wire.WireFormat) (input : Bytes)

namespace Operation

/-- What the operation is handed is at hand. -/
def Uses (stock : Stock) : Operation → Prop
  | setName n => stock.name n
  | setMetaInfo m => stock.metaInfo m
  | setSignature s => stock.signature s
  | name c => c.Uses stock.name
  | metaInfo c => c.Uses stock.metaInfo
  | signature c => c.Uses stock
  | changeCount | wireEncode | fullName | setContent _ | wireDecode _ | wireDecodeWith _ _ => True

theorem uses_mono {stock stock' : Stock} {op : Operation} (hle : stock.Le stock')
    (h : op.Uses stock) : op.Uses stock' := by
  cases op with
  | setName n => exact hle.name n h
  | setMetaInfo m => exact hle.metaInfo m h
  | setSignature s => exact hle.signature s h
  | name c => exact Stamped.Change.uses_mono hle.name h
  | metaInfo c => exact Stamped.Change.uses_mono hle.metaInfo h
  | signature c => exact LiveSignature.Change.uses_mono hle h
  | changeCount | wireEncode | fullName | setContent | wireDecode | wireDecodeWith => trivial

/-- Carries out the operation and tells what is to be written into the log. -/
def perform : Operation → Edit LiveData (Option Deed)
  | changeCount => noteAsked NamedData.changeCount
  | wireEncode => noteEncoded LiveData.wireEncode
  | fullName => do
    -- the digest is taken of the encoding that is then at hand
    match ← LiveData.fullName with
    | .ok _ => return (← get).cache.map fun cached => .encoded cached.value
    | .error _ => return some .asked
  | setName n => noteMove .set (LiveData.setName n)
  | setMetaInfo m => noteMove .set (LiveData.setMetaInfo m)
  | setSignature s => noteMove .set (LiveData.setSignature s)
  | setContent content => noteMove .set (LiveData.setContent content)
  | name c => noteEdit (editName c.run)
  | metaInfo c => noteEdit (editMetaInfo c.run)
  | signature c => noteEdit (editSignature c.run)
  | wireDecode input => noteReceived (fun _ => []) input
  | wireDecodeWith format input => noteConverted (fun _ => []) format input

end Operation

instance : Packet LiveData where
  Operation := Operation
  Uses _ := fun stock op => op.Uses stock
  uses_mono := Operation.uses_mono
  create
    | none => make { name := .empty }
    | some n => withName n
  perform := Operation.perform
  shown d := [.part .name d.name.part, .part .metaInfo d.metaInfo.part,
    .part .signature d.signature.part]

/-! ## What operations do -/

section Lawful

theorem namePlace_lawful : namePlace.Lawful :=
  .left (.left .here)

theorem metaInfoPlace_lawful : metaInfoPlace.Lawful :=
  .left (.right .here)

theorem signaturePlace_lawful : signaturePlace.Lawful :=
  .right .here

theorem namePlace_splits : namePlace.Splits :=
  Place.splits_here.left.left

theorem metaInfoPlace_splits : metaInfoPlace.Splits :=
  Place.splits_here.right.left

theorem signaturePlace_splits : signaturePlace.Splits :=
  Place.splits_here.right

variable {n n' : Count} {L : Ledger} {d d' : LiveData}

/-- An answer is the encoding that the packet keeps, or else a new one, and is kept. -/
theorem wireEncode_ok {blob : Wire.SignedBlob} (h : wireEncode d n = ((.ok blob, d'), n')) :
    Answers (ChangeCounted.settle d n).1.2 blob
      ∧ d' = keeping (ChangeCounted.settle d n).1.2 blob ∧ n' = (ChangeCounted.settle d n).2 :=
  encodeOnce_ok rfl id h

/-- Encoding never goes back in the sequence. -/
theorem le_wireEncode (hdrawn : Drawn n d) : n ≤ (wireEncode d n).2 := by
  rw [wireEncode, next_encodeOnce]
  exact (polled hdrawn).le

/-- The name with the digest draws a count of its own, after the packet was encoded. -/
theorem effect_fullName (hdrawn : Drawn n d) :
    Effect n d (Operation.perform .fullName d n).1.1 (Operation.perform .fullName d n).2
      (Operation.perform .fullName d n).1.2 := by
  have hpolled := polled hdrawn
  simp only [Operation.perform, fullName, bind_edit_apply]
  rcases hrun : wireEncode d n with ⟨⟨result, d'⟩, n'⟩
  cases result with
  | ok blob =>
    obtain ⟨hanswer, rfl, rfl⟩ := wireEncode_ok hrun
    exact .encoded hpolled (Nat.le_succ _) hanswer
  | error e =>
    obtain ⟨rfl, rfl⟩ := encodeOnce_error rfl hrun
    exact .polled hpolled

theorem remembers_fullName {w : (Name × MetaInfo) × Signature} (hdrawn : Drawn n d)
    (h : Recalls L (parts d) w) :
    Remembers n L w (Operation.perform .fullName d n).1.1 (Operation.perform .fullName d n).1.2 := by
  have hrecalled : Recalled n L (wireEncode d n).1.2 := recalled_encodeOnce h hdrawn.1
  simp only [Operation.perform, fullName, bind_edit_apply]
  rcases hrun : wireEncode d n with ⟨⟨result, d'⟩, n'⟩
  rw [hrun] at hrecalled
  cases result with
  | ok blob =>
    refine hrecalled.remembers fun _ hdeed => ?_
    obtain ⟨cached, -, hencoded⟩ := Option.map_eq_some_iff.1 hdeed
    cases hencoded
  | error e => exact hrecalled.asked

instance : LawfulPacket LiveData where
  created hname hcreate :=
    LawfulPacket.created_of_make (σ := LiveData) (v := { name := .empty }) namePlace_lawful
      namePlace_splits (fun _ => ⟨rfl, rfl⟩) rfl (fun _ _ => rfl) hname hcreate
  effect {n d op} hdrawn huses := by
    cases op with
    | changeCount => exact effect_noteAsked (polled hdrawn)
    | wireEncode => exact effect_noteEncoded hdrawn fun _ _ h => h
    | fullName => exact effect_fullName hdrawn
    | setName new => exact effect_assign namePlace_lawful hdrawn huses
    | setMetaInfo new => exact effect_assign metaInfoPlace_lawful hdrawn huses
    | setSignature new => exact effect_assign signaturePlace_lawful hdrawn huses
    | setContent content => exact effect_update rfl rfl hdrawn (Nat.le_refl n)
    | name c => exact effect_noteEdit namePlace_lawful hdrawn (Stamped.Change.edited huses)
    | metaInfo c => exact effect_noteEdit metaInfoPlace_lawful hdrawn (Stamped.Change.edited huses)
    | signature c =>
      exact effect_noteEdit signaturePlace_lawful hdrawn
        (LiveSignature.Change.edited hdrawn.1.2.1 huses)
    | wireDecode input => exact effect_noteReceived hdrawn input
    | wireDecodeWith format input => exact effect_noteConverted hdrawn format input
  remembers {n L d w op} hdrawn h huses := by
    cases op with
    | changeCount => exact remembers_noteAsked (recalled_settle h hdrawn.1)
    | wireEncode => exact remembers_noteEncoded (recalled_encodeOnce h hdrawn.1)
    | fullName => exact remembers_fullName hdrawn h
    | setName new =>
      exact remembers_noteSet (recalled_assign namePlace_splits h hdrawn.1 huses)
    | setMetaInfo new =>
      exact remembers_noteSet (recalled_assign metaInfoPlace_splits h hdrawn.1 huses)
    | setSignature new =>
      exact remembers_noteSet (recalled_assign signaturePlace_splits h hdrawn.1 huses)
    | setContent content => exact remembers_noteSet (recalled_update rfl h n)
    | name c =>
      exact remembers_noteEdit (recalls_edit namePlace_lawful namePlace_splits h hdrawn.1
        fun _ => Stamped.Change.entered huses)
    | metaInfo c =>
      exact remembers_noteEdit (recalls_edit metaInfoPlace_lawful metaInfoPlace_splits h hdrawn.1
        fun _ => Stamped.Change.entered huses)
    | signature c =>
      exact remembers_noteEdit (recalls_edit signaturePlace_lawful signaturePlace_splits h hdrawn.1
        fun hs => LiveSignature.Change.entered hs hdrawn.1.2.1 huses)
    | wireDecode input => exact remembers_noteReceived (recalled_wireDecode h hdrawn input)
    | wireDecodeWith format input =>
      exact remembers_noteConverted (recalled_wireDecodeWith h format input)
  shown {n L d w x} hdrawn h hx := by
    simp only [Packet.shown, List.mem_cons, List.not_mem_nil, or_false] at hx
    rcases hx with rfl | rfl | rfl
    · exact ⟨hdrawn.1.1.1.1, h.1.1.1⟩
    · exact ⟨hdrawn.1.1.2.1, h.1.2.1⟩
    · exact ⟨hdrawn.1.2.1, h.2.1⟩

end Lawful

end NamedData.LiveData
