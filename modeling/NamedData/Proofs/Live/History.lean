import NamedData.Proofs.Live.Identity

/-!
# Histories of packets

A process holds packets of one kind, and names, key locators and the like that come about as in a
pool. All draw counts from one sequence. Packets are made, cloned and operated on in any order. Their
operations are handed objects that the process holds, among them parts that were cloned from the
packets themselves; so a part may be put back as it was before it was changed.

Each packet carries a log of what was done to it, newest first; operations that fail leave no trace
there. What a packet should answer is told by its log alone. `Log.standing` is the encoding that was
answered or decoded last, `Log.received` the one that was decoded last, and `Log.nonce` the nonce
that was set or decoded last, each as long as nothing has changed since.

Two kinds of changes escape the packet. A setter gives it the next count of the sequence, and that
may be the count that the packet already has. And a part that is put back as the packet remembers it
has not changed for the packet. `Log.escaped` tells whether the last change was one of these. What a
packet does answer is then what it kept: `Log.held`, `Log.heldInput` and `Log.heldNonce` go back
behind such changes to the last one that the packet has noticed.
-/

namespace NamedData

/-! ## Logs -/

/-- Something done to a packet. -/
inductive Deed where
  /-- The packet was asked for its count, and not for an encoding that it could give. -/
  | asked
  /-- The packet was encoded, or had its encoding at hand. -/
  | encoded (blob : Wire.SignedBlob)
  /-- An input in the initial format was decoded, of which `blob` was consumed. -/
  | received (blob : Wire.SignedBlob) (nonce : Bytes)
  /-- An input in some other format was decoded. -/
  | converted (nonce : Bytes)
  /-- A setter was called; `moved` tells whether the packet had another count afterwards. -/
  | set (moved : Bool)
  /-- The nonce was set; `moved` as above. -/
  | nonceSet (nonce : Bytes) (moved : Bool)
  /-- A part was changed in place; `noticed` tells whether the packet, if asked right then, would
  have answered another count than it had. -/
  | edited (noticed : Bool)
  deriving DecidableEq

/-- What was done to a packet, newest first. -/
abbrev Log := List Deed

namespace Log

/-- The encoding that was answered or decoded last, if nothing has changed since. -/
def standing : Log → Option Wire.SignedBlob
  | .asked :: log => standing log
  | .encoded blob :: _ | .received blob _ :: _ => some blob
  | .converted _ :: _ | .set _ :: _ | .nonceSet _ _ :: _ | .edited _ :: _ | [] => none

/-- The encoding that was decoded last, if nothing has changed since. -/
def received : Log → Option Wire.SignedBlob
  | .asked :: log | .encoded _ :: log => received log
  | .received blob _ :: _ => some blob
  | .converted _ :: _ | .set _ :: _ | .nonceSet _ _ :: _ | .edited _ :: _ | [] => none

/-- The nonce that was set or decoded last, if nothing has changed since, and an empty one
otherwise. -/
def nonce : Log → Bytes
  | .asked :: log | .encoded _ :: log => nonce log
  | .received _ nonce :: _ | .converted nonce :: _ | .nonceSet nonce _ :: _ => nonce
  | .set _ :: _ | .edited _ :: _ | [] => []

/-- The last change is one that the packet has not noticed. -/
def escaped : Log → Bool
  | .asked :: log | .encoded _ :: log => escaped log
  | .set moved :: _ | .nonceSet _ moved :: _ => !moved
  | .edited noticed :: _ => !noticed
  | .received _ _ :: _ | .converted _ :: _ | [] => false

/-- The last change is one that the packet has not noticed, and did not set the nonce. -/
def outlived : Log → Bool
  | .asked :: log | .encoded _ :: log => outlived log
  | .set moved :: _ => !moved
  | .edited noticed :: _ => !noticed
  | .received _ _ :: _ | .converted _ :: _ | .nonceSet _ _ :: _ | [] => false

/-! ### What the packet keeps -/

/-- A part has changed, and the packet notices it once it is asked. -/
def pending : Log → Bool
  | .edited noticed :: _ => noticed
  | .set false :: log => pending log
  | .asked :: _ | .encoded _ :: _ | .received _ _ :: _ | .converted _ :: _ | .set true :: _
  | .nonceSet _ _ :: _ | [] => false

/-- The encoding that was answered or decoded last, if the count has not moved since. -/
def held : Log → Option Wire.SignedBlob
  | .asked :: log => if pending log then none else held log
  | .encoded blob :: _ | .received blob _ :: _ => some blob
  | .set false :: log | .nonceSet _ false :: log | .edited _ :: log => held log
  | .converted _ :: _ | .set true :: _ | .nonceSet _ true :: _ | [] => none

/-- The encoding that was decoded last, if the count has not moved since. -/
def heldInput : Log → Option Wire.SignedBlob
  | .asked :: log | .encoded _ :: log => if pending log then none else heldInput log
  | .received blob _ :: _ => some blob
  | .set false :: log | .nonceSet _ false :: log | .edited _ :: log => heldInput log
  | .converted _ :: _ | .set true :: _ | .nonceSet _ true :: _ | [] => none

/-- The nonce that was set or decoded last, if the count has not moved since, and an empty one
otherwise. -/
def heldNonce : Log → Bytes
  | .asked :: log | .encoded _ :: log => if pending log then [] else heldNonce log
  | .received _ nonce :: _ | .converted nonce :: _ | .nonceSet nonce _ :: _ => nonce
  | .set false :: log | .edited _ :: log => heldNonce log
  | .set true :: _ | [] => []

/-- A setter has been called under which the count did not move, and it has not moved since. -/
def overtaken : Log → Bool
  | .asked :: log | .encoded _ :: log => !pending log && overtaken log
  | .set moved :: _ | .nonceSet _ moved :: _ => !moved
  | .edited _ :: log => overtaken log
  | .received _ _ :: _ | .converted _ :: _ | [] => false

/-- The log once the packet has been asked for its count. -/
def ask (log : Log) : Log :=
  .asked :: log

/-! ### What holds unless the last change has escaped -/

variable {log : Log}

theorem held_ask_of_standing {b : Wire.SignedBlob} (h : log.standing = some b) :
    log.ask.held = some b := by
  induction log with
  | nil => cases h
  | cons deed log ih =>
    cases deed with
    | asked => exact ih h
    | encoded | received => exact h
    | converted | set | nonceSet | edited => cases h

theorem overtaken_ask_of_not_escaped (h : log.escaped = false) : log.ask.overtaken = false := by
  induction log with
  | nil => rfl
  | cons deed log ih =>
    cases deed with
    | asked | encoded => exact ih h
    | received | converted => rfl
    | set moved | nonceSet _ moved | edited moved =>
      cases moved with
      | true => rfl
      | false => cases h

theorem received_of_not_escaped {b : Wire.SignedBlob} (h : log.escaped = false)
    (hinput : log.ask.heldInput = some b) : log.received = some b := by
  induction log with
  | nil => cases hinput
  | cons deed log ih =>
    cases deed with
    | asked | encoded => exact ih h hinput
    | received => exact hinput
    | converted => cases hinput
    | set moved | nonceSet _ moved | edited moved =>
      cases moved with
      | true => cases hinput
      | false => cases h

theorem not_escaped_of_received {b : Wire.SignedBlob} (h : log.received = some b) :
    log.escaped = false := by
  induction log with
  | nil => cases h
  | cons deed log ih =>
    cases deed with
    | asked | encoded => exact ih h
    | received => rfl
    | converted | set | nonceSet | edited => cases h

theorem heldNonce_ask_of_not_outlived (h : log.outlived = false) :
    log.ask.heldNonce = log.nonce := by
  induction log with
  | nil => rfl
  | cons deed log ih =>
    cases deed with
    | asked | encoded => exact ih h
    | received | converted | nonceSet => rfl
    | set moved | edited moved =>
      cases moved with
      | true => rfl
      | false => cases h

theorem nonce_of_outlived (h : log.outlived = true) : log.nonce = [] := by
  induction log with
  | nil => rfl
  | cons deed log ih =>
    cases deed with
    | asked | encoded => exact ih h
    | set | edited => rfl
    | received | converted | nonceSet => cases h

end Log

/-! ## Operations -/

/-- A kind of packet with its operations. -/
class Packet (σ : Type) where
  /-- Names of the operations, with their arguments. -/
  Operation : Type
  /-- The arguments are at hand when the next count is `n`. -/
  Uses : Count → Stock → Operation → Prop
  uses_mono {n : Count} {stock stock' : Stock} {op : Operation} (hle : stock.Le stock')
    (h : Uses n stock op) : Uses n stock' op
  /-- A new packet, with or without a name. -/
  create : Option LiveName → Draws σ
  /-- Carries out an operation and tells what is to be written into the log. -/
  perform : Operation → Edit σ (Option Deed)
  /-- The parts that the packet lets others clone. -/
  shown : σ → List Item

section Notes

variable {σ : Type}

/-- Asks a question that takes up the changes of the parts. -/
def noteAsked {ρ : Type} (e : Edit σ ρ) : Edit σ (Option Deed) := do
  discard e
  return some .asked

/-- Asks for an encoding, and notes the answer. -/
def noteEncoded (e : Edit σ (Except Wire.EncodingError Wire.SignedBlob)) : Edit σ (Option Deed) := do
  match ← e with
  | .ok blob => return some (.encoded blob)
  | .error _ => return some .asked

section Counted

variable [ChangeCounted σ]

/-- Carries out a setter and notes whether the count moved. -/
def noteMove (deed : Bool → Deed) (e : Edit σ Unit) : Edit σ (Option Deed) := do
  let before := ChangeCounted.count (← get)
  e
  return some (deed (ChangeCounted.count (← get) != before))

/-- Whether a packet would answer another count than it has, if it were asked. -/
def isPending (p : σ) (n : Count) : Bool :=
  (changeCount p n).1.1 != ChangeCounted.count p

/-- Makes a change in place, and notes it if it could be made. -/
def noteEdit (e : Edit σ Bool) : Edit σ (Option Deed) := fun p n =>
  let ((done, p), n) := e p n
  ((if done then some (.edited (isPending p n)) else none, p), n)

end Counted

variable {τ π : Type} [Checkable τ] [LivePacket σ τ π]

/-- Decodes an input in the initial format, and notes what was taken of it. -/
def noteReceived (nonceOf : π → Bytes) (input : Bytes) : Edit σ (Option Deed) := do
  match ← LivePacket.wireDecode input, LivePacket.decode σ .initial input with
  | .ok (), .ok (decoded, blob) => return some (.received blob (nonceOf decoded))
  | _, _ => return none

/-- Decodes an input in another format, and notes the nonce that was taken of it. -/
def noteConverted (nonceOf : π → Bytes) (format : Wire.WireFormat) (input : Bytes) :
    Edit σ (Option Deed) := do
  match ← LivePacket.wireDecodeWith format input, LivePacket.decode σ format input with
  | .ok (), .ok (decoded, _) => return some (.converted (nonceOf decoded))
  | _, _ => return none

end Notes

/-! ## Processes -/

/-- A packet with its log. -/
structure Traced (σ : Type) where
  packet : σ
  log : Log

/-- The packets of a process and its other objects, and the next count to be drawn. -/
structure Process (σ : Type) where
  next : Count
  items : List Item
  members : List (Traced σ)

namespace Process

variable {σ : Type} [Packet σ]

/-- What carrying out an operation leaves behind. -/
def act (op : Packet.Operation σ) (m : Traced σ) (n : Count) : Traced σ × Count :=
  let ((deed, packet), n) := Packet.perform op m.packet n
  (⟨packet, deed.toList ++ m.log⟩, n)

/-- The processes that can come about. -/
inductive Reachable : Process σ → Prop where
  | start (n : Count) : Reachable ⟨n, [], []⟩
  | create {n n' : Count} {items : List Item} {members : List (Traced σ)} {p : σ}
      (name : Option LiveName) (h : Reachable ⟨n, items, members⟩)
      (hname : ∀ new ∈ name, .part .name new ∈ items) (hcreate : Packet.create name n = (p, n')) :
      Reachable ⟨n', items, ⟨p, []⟩ :: members⟩
  | clone {n : Count} {items : List Item} {members : List (Traced σ)} {m : Traced σ}
      (h : Reachable ⟨n, items, members⟩) (hm : m ∈ members) : Reachable ⟨n, items, m :: members⟩
  /-- Something else draws counts. -/
  | draw {n n' : Count} {items : List Item} {members : List (Traced σ)}
      (h : Reachable ⟨n, items, members⟩) (hle : n ≤ n') : Reachable ⟨n', items, members⟩
  /-- An object comes about that is no packet. -/
  | arise {n n' : Count} {items : List Item} {members : List (Traced σ)} {x : Item}
      (h : Reachable ⟨n, items, members⟩) (hx : Item.Arises n items n' x) :
      Reachable ⟨n', x :: items, members⟩
  /-- A part of a packet is cloned. -/
  | expose {n : Count} {items : List Item} {members : List (Traced σ)} {m : Traced σ} {x : Item}
      (h : Reachable ⟨n, items, members⟩) (hm : m ∈ members) (hx : x ∈ Packet.shown m.packet) :
      Reachable ⟨n, x :: items, members⟩
  | act {n : Count} {items : List Item} {before after : List (Traced σ)} {m : Traced σ}
      (op : Packet.Operation σ) (h : Reachable ⟨n, items, before ++ m :: after⟩)
      (huses : Packet.Uses n (.ofItems items) op) :
      Reachable ⟨(Process.act op m n).2, items, before ++ (Process.act op m n).1 :: after⟩

/-- What carrying out operations one after the other leaves behind. -/
def actAll (ops : List (Packet.Operation σ)) (m : Traced σ) (n : Count) : Traced σ × Count :=
  ops.foldl (fun r op => act op r.1 r.2) (m, n)

/-- A process may operate on the only packet that it holds, and do nothing else. -/
theorem Reachable.actAll {ops : List (Packet.Operation σ)} {m : Traced σ} {n : Count}
    {items : List Item} (h : Reachable ⟨n, items, [m]⟩)
    (huses : ∀ op ∈ ops, ∀ n, Packet.Uses n (.ofItems items) op) :
    Reachable ⟨(Process.actAll ops m n).2, items, [(Process.actAll ops m n).1]⟩ := by
  induction ops generalizing m n with
  | nil => exact h
  | cons op ops ih =>
    have hone := @act _ _ n items [] [] m op h (huses op List.mem_cons_self n)
    exact ih hone fun op hop => huses op (List.mem_cons_of_mem _ hop)

/-- What holds of every packet of every process, together with a ledger. -/
structure Preserved (P : Count → Ledger → Traced σ → Prop) : Prop where
  created {n n' : Count} {L : Ledger} {name : Option LiveName} {p : σ}
    (hname : ∀ new ∈ name, (Item.part .name new).Holds n L)
    (hcreate : Packet.create name n = (p, n')) :
    n ≤ n' ∧ ∃ L', L.Agrees n L' ∧ P n' L' ⟨p, []⟩
  later {n n' : Count} {L L' : Ledger} {m : Traced σ} (h : P n L m) (hle : n ≤ n')
    (hagree : L.Agrees n L') : P n' L' m
  shown {n : Count} {L : Ledger} {m : Traced σ} {x : Item} (h : P n L m)
    (hx : x ∈ Packet.shown m.packet) : x.Holds n L
  act {n : Count} {L : Ledger} {m : Traced σ} {op : Packet.Operation σ} (h : P n L m)
    (huses : Packet.Uses n (.entered n L) op) :
    n ≤ (Process.act op m n).2
      ∧ ∃ L', L.Agrees n L' ∧ P (Process.act op m n).2 L' (Process.act op m n).1

/-- One ledger goes with all of a process. -/
theorem Reachable.invariant {P : Count → Ledger → Traced σ → Prop} (hP : Preserved P) {p : Process σ}
    (h : Reachable p) :
    ∃ L, (∀ x ∈ p.items, x.Holds p.next L) ∧ ∀ m ∈ p.members, P p.next L m := by
  induction h with
  | start n => exact ⟨fun _ => none, fun x hx => (nomatch hx), fun m hm => nomatch hm⟩
  | create name _ hname hcreate ih =>
    obtain ⟨L, hitems, hmembers⟩ := ih
    obtain ⟨hle, L', hagree, hnew⟩ := hP.created (fun new hn => hitems _ (hname new hn)) hcreate
    refine ⟨L', fun x hx => (hitems x hx).later hle hagree, fun m hm => ?_⟩
    rcases List.mem_cons.1 hm with rfl | hm
    · exact hnew
    · exact hP.later (hmembers m hm) hle hagree
  | clone _ hmember ih =>
    obtain ⟨L, hitems, hmembers⟩ := ih
    refine ⟨L, hitems, fun m hm => ?_⟩
    rcases List.mem_cons.1 hm with rfl | hm
    · exact hmembers m hmember
    · exact hmembers m hm
  | draw _ hle ih =>
    obtain ⟨L, hitems, hmembers⟩ := ih
    exact ⟨L, fun x hx => (hitems x hx).later hle .refl,
      fun m hm => hP.later (hmembers m hm) hle .refl⟩
  | arise _ hx ih =>
    obtain ⟨L, hitems, hmembers⟩ := ih
    obtain ⟨hle, L', hagree, hnew⟩ := hx.holds hitems
    refine ⟨L', fun y hy => ?_, fun m hm => hP.later (hmembers m hm) hle hagree⟩
    rcases List.mem_cons.1 hy with rfl | hy
    · exact hnew
    · exact (hitems y hy).later hle hagree
  | expose _ hm hx ih =>
    obtain ⟨L, hitems, hmembers⟩ := ih
    refine ⟨L, fun y hy => ?_, hmembers⟩
    rcases List.mem_cons.1 hy with rfl | hy
    · exact hP.shown (hmembers _ hm) hx
    · exact hitems y hy
  | @act n items before after m₀ op _ huses ih =>
    obtain ⟨L, hitems, hmembers⟩ := ih
    have hm₀ : m₀ ∈ before ++ m₀ :: after := List.mem_append_right _ List.mem_cons_self
    have hentered := Packet.uses_mono (Item.ofItems_le_entered hitems) huses
    obtain ⟨hle, L', hagree, hnew⟩ := hP.act (hmembers m₀ hm₀) hentered
    refine ⟨L', fun x hx => (hitems x hx).later hle hagree, fun m hm => ?_⟩
    -- the packet operated on is the only one that changes; the others see the sequence advance
    rcases List.mem_append.1 hm with hm | hm
    · exact hP.later (hmembers m (List.mem_append_left _ hm)) hle hagree
    · rcases List.mem_cons.1 hm with rfl | hm
      · exact hnew
      · exact hP.later (hmembers m (List.mem_append_right _ (List.mem_cons_of_mem _ hm))) hle hagree

end Process

end NamedData
