import NamedData.Proofs.Live.Interest

/-!
# Changes that are noticed

Whoever asks an object for its count, time and again, can tell from the answers whether anything in
the object was changed in between, at whatever depth. This holds for key locators and signatures,
and for Interests and Data packets that nothing was decoded into.

`Stirred` is what one operation does to an object: if it changes something, then either a tracker has
that to take up, or the object has a count drawn since. `Course` is a run of operations and answers,
and `Followed` the invariant that carries the theorem along it: an object without changes since the
last answer is settled at the count that it answered, and one with changes is past it as soon as it
is settled.

A mutator may be refused, for what it is handed or for what the object is. Then it does nothing,
and counts as no change. What it puts in a place is no copy of what the place held when it was last
looked at; new values are none (`Made.noticeable`).
-/

namespace NamedData

open Observed LivePacket

/-! ## What trackers report -/

/-- Objects with trackers in them. -/
class Tracking (α : Type) where
  /-- What the trackers would report if they looked at their parts when the next count is `n`. -/
  reports : Count → α → List Bool

open Tracking

instance {β : Type} : Tracking (Stamped β) where
  reports _ _ := []

instance {α : Type} [ChangeCounted α] [Tracking α] : Tracking (Tracked α) where
  reports n t := (Tracked.check t n).1.1 :: reports n t.part

instance {α β : Type} [Tracking α] [Tracking β] : Tracking (α × β) where
  reports n p := reports n p.1 ++ reports n p.2

instance : Tracking LiveKeyLocator where
  reports n k :=
    match k.kind with
    | .name t _ => reports n t
    | .absent | .key _ | .certificate _ | .digest _ => []

instance : Tracking LiveSignature where
  reports n s :=
    match s.scheme with
    | .hmacWithSha256 k => reports n k
    | .sha256WithRsa k period | .sha256WithEcdsa k period => reports n (k, period)
    | .digestSha256 | .generic _ _ => []

instance (priority := low) {σ τ π : Type} [LivePacket σ τ π] [Tracking τ] : Tracking σ where
  reports n p := reports n (parts p)

/-- Objects whose trackers report nothing once they are settled. -/
class LawfulTracking (α : Type) {V : outParam Type} [Observed α V] [Tracking α] : Prop where
  quiet {n : Count} {a : α} (hdrawn : Drawn n a) (h : Settled a) : true ∉ reports n a

instance {β : Type} : LawfulTracking (Stamped β) where
  quiet _ _ := List.not_mem_nil

instance {α V : Type} [ChangeCounted α] [Observed α V] [LawfulObserved α V] [Tracking α]
    [LawfulTracking α] : LawfulTracking (Tracked α) where
  quiet {n t} hdrawn h := by
    have hpart : true ∉ reports n t.part := LawfulTracking.quiet hdrawn.1 h.1
    show true ∉ (Tracked.check t n).1.1 :: reports n t.part
    rw [Tracked.check_of_settled hdrawn h]
    simp [hpart]

instance {α β V W : Type} [Observed α V] [Observed β W] [Tracking α] [Tracking β] [LawfulTracking α]
    [LawfulTracking β] : LawfulTracking (α × β) where
  quiet {n p} hdrawn h := by
    show true ∉ reports n p.1 ++ reports n p.2
    simp only [List.mem_append, not_or]
    exact ⟨LawfulTracking.quiet hdrawn.1 h.1, LawfulTracking.quiet hdrawn.2 h.2⟩

instance : LawfulTracking LiveKeyLocator where
  quiet {n k} hdrawn h := by
    obtain ⟨kind, count⟩ := k
    cases kind with
    | name t type => exact LawfulTracking.quiet (a := t) hdrawn.1 h
    | absent | key | certificate | digest => exact List.not_mem_nil

instance : LawfulTracking LiveSignature where
  quiet {n s} hdrawn h := by
    obtain ⟨bytes, scheme, count⟩ := s
    cases scheme with
    | digestSha256 | generic => exact List.not_mem_nil
    | hmacWithSha256 k => exact LawfulTracking.quiet (a := k) hdrawn.1 h
    | sha256WithRsa k period | sha256WithEcdsa k period =>
      exact LawfulTracking.quiet (a := (k, period)) hdrawn.1 h

instance (priority := low) {σ τ π W : Type} [LivePacket σ τ π] [Observed τ W] [Tracking τ]
    [LawfulTracking τ] : LawfulTracking σ where
  quiet {_ p} hdrawn h := LawfulTracking.quiet (a := parts p) hdrawn.1 h

/-! ## Following an object -/

section Followed

variable {α V : Type} [ChangeCounted α] [Observed α V]

/-- Object `a'` at count `n'` is what an operation on object `a` at `n` leaves behind; `changed`
tells whether it has changed anything. -/
structure Stirred (n : Count) (a : α) (changed : Bool) (n' : Count) (a' : α) : Prop where
  le : n ≤ n'
  drawn : Drawn n' a'
  count_lt : ChangeCounted.count a < n → ChangeCounted.count a' < n'
  same : changed = false → Settled a → Settled a' ∧ ChangeCounted.count a' = ChangeCounted.count a
  later : changed = true ∨ ¬ Settled a → Settled a' → n ≤ ChangeCounted.count a'

/-- Object `a` can be there when the next count is `n`, after it has answered the count `last`, if
any, with changes since if `moved`. -/
structure Followed (last : Option Count) (moved : Bool) (n : Count) (a : α) : Prop where
  drawn : Drawn n a
  count_lt : ChangeCounted.count a < n
  last_lt : ∀ c ∈ last, c < n
  still : moved = false → ∀ c ∈ last, Settled a ∧ ChangeCounted.count a = c
  past : moved = true → ∀ c ∈ last, Settled a → c < ChangeCounted.count a

namespace Followed

variable {last : Option Count} {moved changed : Bool} {n n' : Count} {a a' : α}

theorem mono (h : Followed last moved n a) (hle : n ≤ n') : Followed last moved n' a :=
  ⟨drawn_mono hle h.drawn, Nat.lt_of_lt_of_le h.count_lt hle,
    fun c hc => Nat.lt_of_lt_of_le (h.last_lt c hc) hle, h.still, h.past⟩

/-- An operation is followed. -/
theorem stir (h : Followed last moved n a) (hs : Stirred n a changed n' a') :
    Followed last (moved || changed) n' a' where
  drawn := hs.drawn
  count_lt := hs.count_lt h.count_lt
  last_lt c hc := Nat.lt_of_lt_of_le (h.last_lt c hc) hs.le
  still hmoved c hc := by
    obtain ⟨hmoved, hchanged⟩ := Bool.or_eq_false_iff.1 hmoved
    obtain ⟨hsettled, hcount⟩ := h.still hmoved c hc
    obtain ⟨hsettled', hcount'⟩ := hs.same hchanged hsettled
    exact ⟨hsettled', hcount'.trans hcount⟩
  past hmoved c hc hsettled' := by
    have hlast := h.last_lt c hc
    -- the count stays only if nothing was changed and nothing was left to take up
    cases changed with
    | true =>
      have hcount := hs.later (.inl rfl) hsettled'
      lia
    | false =>
      by_cases hsettled : Settled a
      · have hcount := (hs.same rfl hsettled).2
        have hold := h.past (by simpa using hmoved) c hc hsettled
        lia
      · have hcount := hs.later (.inr hsettled) hsettled'
        lia

variable [LawfulObserved α V]

/-- The answer tells whether there were changes. -/
theorem answer (h : Followed last moved n a) {c : Count} (hc : c ∈ last) :
    (moved = true → c < (changeCount a n).1.1) ∧ (moved = false → (changeCount a n).1.1 = c) := by
  have hlook := LawfulObserved.looked h.drawn
  constructor
  · intro hmoved
    by_cases hsettled : Settled a
    · rw [changeCount_of_settled h.drawn hsettled]
      exact h.past hmoved c hc hsettled
    · exact Nat.lt_of_lt_of_le (h.last_lt c hc) (hlook.later hsettled).2
  · intro hmoved
    obtain ⟨hsettled, hcount⟩ := h.still hmoved c hc
    rw [changeCount_of_settled h.drawn hsettled]
    exact hcount

/-- After the answer there are no changes. -/
theorem ask (h : Followed last moved n a)
    (hcount : ChangeCounted.count (ChangeCounted.settle a n).1.2 < (ChangeCounted.settle a n).2) :
    Followed (some (changeCount a n).1.1) false (changeCount a n).2 (changeCount a n).1.2 := by
  have hlook := LawfulObserved.looked h.drawn
  refine ⟨hlook.drawn, hcount, ?_, ?_, fun hmoved => nomatch hmoved⟩
  · rintro _ ⟨⟩
    exact hcount
  · rintro - _ ⟨⟩
    exact ⟨hlook.settled, rfl⟩

end Followed

end Followed

/-! ## Operations and courses -/

/-- Objects with operations that may change them. -/
class Mutable (α : Type) where
  Operation : Type
  /-- What the operation is handed is at hand when the next count is `n`. -/
  Allowed : Count → α → Operation → Prop
  /-- Carries out the operation and tells whether it has changed anything. -/
  perform : Operation → Edit α Bool

/-- Carries out the operation that a mutator chooses for the object, if it is not refused. -/
def Mutable.attempt {α : Type} [Mutable α] (mutator : α → Option (Operation α)) : Edit α Bool := do
  match mutator (← get) with
  | none => return false
  | some op => perform op

/-- Objects all of whose operations keep the contract. -/
class LawfulMutable (α : Type) {V : outParam Type} [ChangeCounted α] [Observed α V] [Mutable α] :
    Prop where
  asked_lt {n : Count} {a : α} (hdrawn : Drawn n a) (hcount : ChangeCounted.count a < n) :
    ChangeCounted.count (ChangeCounted.settle a n).1.2 < (ChangeCounted.settle a n).2
  stirred {n : Count} {a : α} {op : Mutable.Operation α} (hdrawn : Drawn n a)
    (hallowed : Mutable.Allowed n a op) :
    Stirred n a (Mutable.perform op a n).1.1 (Mutable.perform op a n).2
      (Mutable.perform op a n).1.2

section Course

variable {α V : Type} [ChangeCounted α] [Observed α V] [Mutable α]

/-- Object `a` can be there when the next count is `n`, after it has answered the count `last`, if
any; `moved` tells whether it was changed since. -/
inductive Course : (last : Option Count) → (moved : Bool) → (n : Count) → (a : α) → Prop where
  /-- The object was made somehow, and all its counts were drawn. -/
  | start {n : Count} {a : α} (hdrawn : Drawn n a) (hcount : ChangeCounted.count a < n) :
      Course none false n a
  /-- Something else draws counts. -/
  | draw {last : Option Count} {moved : Bool} {n n' : Count} {a : α} (h : Course last moved n a)
      (hle : n ≤ n') : Course last moved n' a
  | act {last : Option Count} {moved : Bool} {n : Count} {a : α}
      (mutator : α → Option (Mutable.Operation α)) (h : Course last moved n a)
      (hallowed : ∀ op ∈ mutator a, Mutable.Allowed n a op) :
      Course last (moved || (Mutable.attempt mutator a n).1.1) (Mutable.attempt mutator a n).2
        (Mutable.attempt mutator a n).1.2
  | ask {last : Option Count} {moved : Bool} {n : Count} {a : α} (h : Course last moved n a) :
      Course (some (changeCount a n).1.1) false (changeCount a n).2 (changeCount a n).1.2

variable [LawfulMutable α]

/-- A mutator that is refused does nothing, any other does what its operation does. -/
theorem Mutable.attempt_stirred {n : Count} {a : α} (hdrawn : Drawn n a)
    {mutator : α → Option (Mutable.Operation α)}
    (hallowed : ∀ op ∈ mutator a, Mutable.Allowed n a op) :
    Stirred n a (attempt mutator a n).1.1 (attempt mutator a n).2 (attempt mutator a n).1.2 := by
  simp only [attempt, bind_edit_apply, get_edit_apply]
  cases hmutator : mutator a with
  | none =>
    exact ⟨Nat.le_refl n, hdrawn, id, fun _ h => ⟨h, rfl⟩,
      fun h hs => h.elim (fun h => nomatch h) (absurd hs)⟩
  | some op => exact LawfulMutable.stirred hdrawn (hallowed op hmutator)

theorem Course.followed [LawfulObserved α V] {last : Option Count} {moved : Bool} {n : Count} {a : α}
    (h : Course last moved n a) : Followed last moved n a := by
  induction h with
  | start hdrawn hcount =>
    exact ⟨hdrawn, hcount, fun _ hc => (nomatch hc), fun _ _ hc => (nomatch hc),
      fun _ _ hc => (nomatch hc)⟩
  | draw _ hle ih => exact ih.mono hle
  | act mutator _ hallowed ih => exact ih.stir (Mutable.attempt_stirred ih.drawn hallowed)
  | ask _ ih => exact ih.ask (LawfulMutable.asked_lt ih.drawn ih.count_lt)

end Course

/-- In every course of such an object, the next answer is above the last one if there were changes
since, and is the last one if there were none; and no tracker has anything to report after it. -/
def NoticesChanges (α : Type) {V : Type} [ChangeCounted α] [Observed α V] [Mutable α]
    [Tracking α] : Prop :=
  ∀ last moved n (a : α), Course last moved n a →
    (∀ c ∈ last, (moved = true → c < (changeCount a n).1.1)
      ∧ (moved = false → (changeCount a n).1.1 = c))
    ∧ ∀ m, (changeCount a n).2 ≤ m → true ∉ reports m (changeCount a n).1.2

theorem noticesChanges {α V : Type} [ChangeCounted α] [Observed α V] [LawfulObserved α V]
    [Mutable α] [LawfulMutable α] [Tracking α] [LawfulTracking α] : NoticesChanges α := by
  intro last moved n a h
  have hfollowed := h.followed
  have hlook := LawfulObserved.looked hfollowed.drawn
  exact ⟨fun c hc => hfollowed.answer hc,
    fun m hm => LawfulTracking.quiet (drawn_mono hm hlook.drawn) hlook.settled⟩

/-! ## Key locators and signatures -/

/-- A change that every owner notices is noticed by whoever asks. -/
theorem Stirred.ofChanged {α V : Type} [ChangeCounted α] [Observed α V] {n n' : Count} {a a' : α}
    {done : Bool} (hlt : ∀ (m : Count) (b : α), Drawn m b → ChangeCounted.count b < m)
    (hdrawn : Drawn n a) (h : ∀ seen < n, Changed seen n a done n' a') : Stirred n a done n' a' := by
  obtain ⟨⟨hle, hdrawn', hkept⟩, -⟩ := h _ (hlt n a hdrawn)
  refine ⟨hle, hdrawn', fun _ => hlt n' a' hdrawn', ?_, ?_⟩
  · intro hdone hsettled
    rw [hkept hdone]
    exact ⟨hsettled, rfl⟩
  · intro hlater hsettled'
    cases done with
    | true => exact Nat.le_of_not_lt fun hold => (h _ hold).noticeable rfl hsettled' rfl
    | false =>
      rw [hkept rfl] at hsettled'
      exact absurd hsettled' (hlater.resolve_left (fun h => nomatch h))

namespace LiveKeyLocator

/-- The change is made in the locator, and does not put another one in its place. -/
def Change.Inside : Change → Prop
  | setKind _ | setName _ _ | name _ => True
  | assign _ => False

/-- What is allowed inside does not depend on what the owner remembers. -/
theorem Change.allowed_of_inside {c : Change} {n seen seen' : Count} {k : LiveKeyLocator}
    (hinside : c.Inside) (h : c.Allowed n seen k) : c.Allowed n seen' k := by
  cases c with
  | setKind | setName | name => exact h
  | assign => exact hinside.elim

instance : Mutable LiveKeyLocator where
  Operation := Change
  Allowed n k c := c.Inside ∧ c.Allowed n k.count k
  perform := Change.run

instance : LawfulMutable LiveKeyLocator where
  asked_lt hdrawn _ := (LawfulObserved.looked hdrawn).drawn.2
  stirred hdrawn hallowed :=
    .ofChanged (fun _ _ h => h.2) hdrawn fun _ hseen =>
      Change.changed hdrawn hseen (Change.allowed_of_inside hallowed.1 hallowed.2)

end LiveKeyLocator

namespace LiveSignature

/-- The change is made in the signature, and does not put another one in its place. -/
def Change.Inside : Change → Prop
  | setBytes _ | setInfo _ _ | setKeyLocator _ | setValidity _ | keyLocator _ | validity _ => True
  | assign _ => False

/-- What is allowed inside does not depend on what the owner remembers. -/
theorem Change.allowed_of_inside {c : Change} {n seen seen' : Count} {s : LiveSignature}
    (hinside : c.Inside) (h : c.Allowed n seen s) : c.Allowed n seen' s := by
  cases c with
  | setBytes | setInfo | setKeyLocator | setValidity | keyLocator | validity => exact h
  | assign => exact hinside.elim

instance : Mutable LiveSignature where
  Operation := Change
  Allowed n s c := c.Inside ∧ c.Allowed n s.count s
  perform := Change.run

instance : LawfulMutable LiveSignature where
  asked_lt hdrawn _ := (LawfulObserved.looked hdrawn).drawn.2
  stirred hdrawn hallowed :=
    .ofChanged (fun _ _ h => h.2) hdrawn fun _ hseen =>
      Change.changed hdrawn hseen (Change.allowed_of_inside hallowed.1 hallowed.2)

end LiveSignature

/-! ## Packets -/

/-- A deed that changes the packet, be it a setter under which the count stays. -/
def Deed.changes : Deed → Bool
  | .asked | .encoded _ => false
  | .received _ _ | .converted _ | .set _ | .nonceSet _ _ | .edited _ => true

/-- Packets with a choice of operations. -/
class Followable (σ : Type) [Packet σ] where
  /-- What the operation is handed exists, what it puts in a place is no copy of what the packet
  remembers, and nothing is decoded. -/
  Allowed : Count → σ → Packet.Operation σ → Prop

instance packetMutable {σ : Type} [Packet σ] [Followable σ] : Mutable σ where
  Operation := Packet.Operation σ
  Allowed := Followable.Allowed
  perform op := do return (← Packet.perform op).any Deed.changes

section Packets

variable {σ τ π W : Type} [LivePacket σ τ π] [Observed τ W]

/-- The deed leaves packet `p'` with what it has changed, to take up if it was done in place. -/
def Deed.Noticed (p' : σ) : Deed → Prop
  | .received _ _ | .converted _ => False
  | .edited _ => ¬ Settled p'
  | .asked | .encoded _ | .set _ | .nonceSet _ _ => True

variable {n n' : Count} {p p' : σ}

theorem noticed_noteAsked {ρ : Type} {e : Edit σ ρ} :
    ∀ d ∈ (noteAsked e p n).1.1, d.Noticed p' := by
  rintro _ ⟨⟩
  trivial

theorem noticed_noteEncoded {e : Edit σ (Except Wire.EncodingError Wire.SignedBlob)} :
    ∀ d ∈ (noteEncoded e p n).1.1, d.Noticed p' := by
  simp only [noteEncoded, bind_edit_apply]
  cases (e p n).1.1 <;> rintro _ ⟨⟩ <;> trivial

theorem noticed_noteMove [ChangeCounted σ] {deed : Bool → Deed} {e : Edit σ Unit}
    (hdeed : ∀ moved, (deed moved).Noticed p') : ∀ d ∈ (noteMove deed e p n).1.1, d.Noticed p' := by
  rintro _ ⟨⟩
  exact hdeed _

variable [Checkable τ]

theorem Stirred.ofPolled (h : Polled n p n' p') : Stirred n p false n' p' where
  le := h.le
  drawn := h.drawn
  count_lt := h.count_lt
  same _ hsettled := by
    rw [(h.same hsettled).1]
    exact ⟨hsettled, rfl⟩
  later hlater _ := (h.later (hlater.resolve_left nofun)).2

/-- An encoding may be kept, and others may draw counts. -/
theorem Stirred.keeping [LawfulCore σ] {n₁ : Count} {p₁ : σ} {changed : Bool}
    (h : Stirred n p changed n₁ p₁) (hle : n₁ ≤ n') (blob : Wire.SignedBlob) :
    Stirred n p changed n' (LivePacket.keeping p₁ blob) := by
  have hcount : ChangeCounted.count (LivePacket.keeping p₁ blob) = ChangeCounted.count p₁ :=
    count_withCache p₁ _
  have hsettled : Settled (LivePacket.keeping p₁ blob) ↔ Settled p₁ := settled_withCache p₁ _
  refine ⟨Nat.le_trans h.le hle, (drawn_withCache p₁ _ n').2 (drawn_mono hle h.drawn), ?_, ?_, ?_⟩
  · exact fun hlt => hcount ▸ Nat.lt_of_lt_of_le (h.count_lt hlt) hle
  · rw [hcount, hsettled]
    exact h.same
  · rw [hcount, hsettled]
    exact h.later

variable [Recalling τ] [LawfulLivePacket σ]

theorem Stirred.ofEffect {deed : Option Deed} (hdrawn : Drawn n p) (h : Effect n p deed n' p')
    (hdeed : ∀ d ∈ deed, d.Noticed p') : Stirred n p (deed.any Deed.changes) n' p' := by
  cases h with
  | nothing hle =>
    exact ⟨hle, drawn_mono hle hdrawn, fun hlt => Nat.lt_of_lt_of_le hlt hle, fun _ h => ⟨h, rfl⟩,
      fun hlater hs => absurd hs (hlater.resolve_left nofun)⟩
  | polled h => exact .ofPolled h
  | encoded h hle => exact (Stirred.ofPolled h).keeping hle _
  | received | converted => exact (hdeed _ rfl).elim
  | set h | nonceSet h =>
    exact ⟨Nat.le_trans h.le (Nat.le_of_lt h.lt), h.drawn, fun _ => h.lt, nofun, fun _ _ => h.le⟩
  | edited hle hdrawn' =>
    refine ⟨hle, hdrawn', fun hlt => ?_, nofun, fun _ hs => absurd hs (hdeed _ rfl)⟩
    rw [count_withParts]
    exact Nat.lt_of_lt_of_le hlt hle

/-- A change of a part that its tracker notices is noticed by the packet. -/
theorem noticed_noteEdit {α V : Type} [ChangeCounted α] [Observed α V] {place : Place τ (Tracked α)}
    {e : Edit α Bool} (hplace : place.Lawful)
    (h : Changed (place.view (parts p)).seen n (place.view (parts p)).part
      (e (place.view (parts p)).part n).1.1 (e (place.view (parts p)).part n).2
      (e (place.view (parts p)).part n).1.2) :
    ∀ d ∈ (noteEdit (LivePacket.edit place e) p n).1.1,
      d.Noticed (noteEdit (LivePacket.edit place e) p n).1.2 := by
  intro d hd
  simp only [noteEdit, edit_apply] at hd ⊢
  split at hd
  · next hdone =>
    cases hd
    intro hs
    exact Tracked.unsettled h hdone (hplace.settled_of_put ((settled_withParts _ _ _).1 hs))
  · cases hd

/-- Packets all of whose operations are noticed. -/
class LawfulFollowable (σ : Type) {τ π W : outParam Type} [Checkable τ] [LivePacket σ τ π]
    [Observed τ W] [Recalling τ] [LawfulLivePacket σ] [Packet σ] [Followable σ] : Prop where
  effect {n : Count} {p : σ} {op : Packet.Operation σ} (hdrawn : Drawn n p)
    (hallowed : Followable.Allowed n p op) :
    Effect n p (Packet.perform op p n).1.1 (Packet.perform op p n).2 (Packet.perform op p n).1.2
  noticed {n : Count} {p : σ} {op : Packet.Operation σ} (hdrawn : Drawn n p)
    (hallowed : Followable.Allowed n p op) :
    ∀ d ∈ (Packet.perform op p n).1.1, d.Noticed (Packet.perform op p n).1.2

instance [LawfulCheckable τ W] [Packet σ] [Followable σ] [LawfulFollowable σ] : LawfulMutable σ where
  asked_lt hdrawn hcount := (polled hdrawn).count_lt hcount
  stirred hdrawn hallowed :=
    .ofEffect hdrawn (LawfulFollowable.effect hdrawn hallowed)
      (LawfulFollowable.noticed hdrawn hallowed)

end Packets

namespace LiveData

/-- What is handed in exists, and what is put in a place is no copy of what the packet remembers. -/
def Operation.Allowed (n : Count) (d : LiveData) : Operation → Prop
  | setName new => Drawn n new
  | setMetaInfo new => Drawn n new
  | setSignature new => Drawn n new
  | name c => c.Allowed n d.name.seen
  | metaInfo c => c.Allowed n d.metaInfo.seen
  | signature c => c.Allowed n d.signature.seen d.signature.part
  | changeCount | wireEncode | fullName | setContent _ => True
  | wireDecode _ | wireDecodeWith _ _ => False

instance : Followable LiveData where
  Allowed := Operation.Allowed

theorem noticed_fullName {n : Count} {d d' : LiveData} :
    ∀ deed ∈ (Operation.perform .fullName d n).1.1, deed.Noticed d' := by
  simp only [Operation.perform, bind_edit_apply]
  cases (fullName d n).1.1 with
  | ok name =>
    intro deed hdeed
    obtain ⟨cached, -, rfl⟩ := Option.map_eq_some_iff.1 hdeed
    trivial
  | error e =>
    rintro _ ⟨⟩
    trivial

instance : LawfulFollowable LiveData where
  effect {n d op} hdrawn hallowed := by
    cases op with
    | name c =>
      exact effect_noteEdit namePlace_lawful hdrawn
        (Stamped.Change.changed hdrawn.1.1.1.2.1 hallowed).toEdited
    | metaInfo c =>
      exact effect_noteEdit metaInfoPlace_lawful hdrawn
        (Stamped.Change.changed hdrawn.1.1.2.2.1 hallowed).toEdited
    | signature c =>
      exact effect_noteEdit signaturePlace_lawful hdrawn
        (LiveSignature.Change.changed hdrawn.1.2.1 hdrawn.1.2.2.1 hallowed).toEdited
    | changeCount | wireEncode | fullName | setName | setMetaInfo | setSignature | setContent =>
      exact LawfulPacket.effect hdrawn hallowed
    | wireDecode | wireDecodeWith => exact hallowed.elim
  noticed {n d op} hdrawn hallowed := by
    cases op with
    | name c =>
      exact noticed_noteEdit namePlace_lawful (Stamped.Change.changed hdrawn.1.1.1.2.1 hallowed)
    | metaInfo c =>
      exact noticed_noteEdit metaInfoPlace_lawful (Stamped.Change.changed hdrawn.1.1.2.2.1 hallowed)
    | signature c =>
      exact noticed_noteEdit signaturePlace_lawful
        (LiveSignature.Change.changed hdrawn.1.2.1 hdrawn.1.2.2.1 hallowed)
    | changeCount => exact noticed_noteAsked
    | wireEncode => exact noticed_noteEncoded
    | fullName => exact noticed_fullName
    | setName | setMetaInfo | setSignature | setContent => exact noticed_noteMove fun _ => trivial
    | wireDecode | wireDecodeWith => exact hallowed.elim

end LiveData

namespace LiveInterest

/-- What is handed in exists, and what is put in a place is no copy of what the Interest
remembers. -/
def Operation.Allowed (n : Count) (i : LiveInterest) : Operation → Prop
  | setName new => Drawn n new
  | setKeyLocator new => Drawn n new
  | setExclude new => Drawn n new
  | setLink l => Drawn n l.data
  | name c => c.Allowed n i.name.seen
  | keyLocator c => c.Allowed n i.keyLocator.seen i.keyLocator.part
  | exclude c => c.Allowed n i.exclude.seen
  | changeCount | nonce | wireEncode _ | setPublisherDigest _ | updateSettings _ | setNonce _ => True
  | wireDecode _ | wireDecodeWith _ _ => False

instance : Followable LiveInterest where
  Allowed := Operation.Allowed

theorem noticed_setLink {n : Count} {i i' : LiveInterest} {l : LiveLink} :
    ∀ deed ∈ (Operation.perform (.setLink l) i n).1.1, deed.Noticed i' := by
  cases hresult : (LiveLink.wireEncode l n).1.1 with
  | ok blob =>
    rw [setLink_ok i hresult]
    exact noticed_noteMove fun _ => trivial
  | error e =>
    rw [setLink_error i hresult]
    exact fun _ h => nomatch h

instance : LawfulFollowable LiveInterest where
  effect {n i op} hdrawn hallowed := by
    cases op with
    | name c =>
      exact effect_noteEdit namePlace_lawful hdrawn
        (Stamped.Change.changed hdrawn.1.1.1.2.1 hallowed).toEdited
    | keyLocator c =>
      exact effect_noteEdit keyLocatorPlace_lawful hdrawn
        (LiveKeyLocator.Change.changed hdrawn.1.1.2.1 hdrawn.1.1.2.2.1 hallowed).toEdited
    | exclude c =>
      exact effect_noteEdit excludePlace_lawful hdrawn
        (Stamped.Change.changed hdrawn.1.2.2.1 hallowed).toEdited
    | changeCount | nonce | wireEncode | setName | setKeyLocator | setPublisherDigest | setExclude
    | updateSettings | setLink | setNonce => exact LawfulPacket.effect hdrawn hallowed
    | wireDecode | wireDecodeWith => exact hallowed.elim
  noticed {n i op} hdrawn hallowed := by
    cases op with
    | name c =>
      exact noticed_noteEdit namePlace_lawful (Stamped.Change.changed hdrawn.1.1.1.2.1 hallowed)
    | keyLocator c =>
      exact noticed_noteEdit keyLocatorPlace_lawful
        (LiveKeyLocator.Change.changed hdrawn.1.1.2.1 hdrawn.1.1.2.2.1 hallowed)
    | exclude c =>
      exact noticed_noteEdit excludePlace_lawful (Stamped.Change.changed hdrawn.1.2.2.1 hallowed)
    | changeCount | nonce => exact noticed_noteAsked
    | wireEncode => exact noticed_noteEncoded
    | setName | setKeyLocator | setPublisherDigest | setExclude | updateSettings | setNonce =>
      exact noticed_noteMove fun _ => trivial
    | setLink => exact noticed_setLink
    | wireDecode | wireDecodeWith => exact hallowed.elim

end LiveInterest

/-! ## New values -/

/-- A new object, whose own count is the last that was drawn for it, is no copy of what an owner
remembers from before. -/
theorem Made.noticeable {α V : Type} [ChangeCounted α] [Observed α V] {seen n n' : Count} {v : V}
    {a : α} (h : Made n v n' a) (hlast : ChangeCounted.count a + 1 = n') (hseen : seen < n) :
    Noticeable seen a := by
  have hlt := h.lt
  exact noticeable_of_le hseen (by lia)

theorem Stamped.Change.allowed_make {β : Type} (v : β) {seen n : Count} (hseen : seen < n) :
    (assign (make v n).1).Allowed (make v n).2 seen :=
  ⟨(made v n).drawn, (made v n).noticeable rfl hseen⟩

theorem LiveKeyLocator.Change.allowed_make (v : KeyLocator) {seen n : Count} (hseen : seen < n)
    (k : LiveKeyLocator) : (assign (make v n).1).Allowed (make v n).2 seen k :=
  ⟨(made v n).drawn, (made v n).noticeable rfl hseen⟩

theorem LiveSignature.Change.allowed_make (v : Signature) {seen n : Count} (hseen : seen < n)
    (s : LiveSignature) : (assign (make v n).1).Allowed (make v n).2 seen s :=
  ⟨(made v n).drawn, (made v n).noticeable rfl hseen⟩

/-! ## All changes -/

/-- Counts tell every change of a key locator, a signature, and an Interest or a Data packet that
nothing was decoded into. -/
theorem every_change_noticed :
    NoticesChanges LiveKeyLocator ∧ NoticesChanges LiveSignature ∧ NoticesChanges LiveData
      ∧ NoticesChanges LiveInterest :=
  ⟨noticesChanges, noticesChanges, noticesChanges, noticesChanges⟩

/-! ### A packet whose signature names its key -/

namespace LiveData

/-- Puts a key locator into the signature. -/
def useKey (k : LiveKeyLocator) (_ : LiveData) : Option Operation :=
  some (.signature (.keyLocator (.assign k)))

/-- A new packet with a key locator made after it. -/
def unkeyed : LiveData × LiveKeyLocator × Count :=
  let (d, n) := make { name := .empty } 0
  (d, LiveKeyLocator.make (.name ⟨[⟨.generic, [0x6b]⟩]⟩ .unspecified) n)

/-- The packet after the key locator was put into its signature. -/
def keyed : LiveData × Count :=
  let ((_, d), n) := Mutable.attempt (useKey unkeyed.2.1) unkeyed.1 unkeyed.2.2
  (d, n)

theorem course_keyed : Course none true keyed.2 keyed.1 := by
  obtain ⟨-, hdrawn, -⟩ := recalled_make (σ := LiveData) (p := unkeyed.1) (v := { name := .empty })
    (n := 0) rfl fun _ => none
  have hkey := LiveKeyLocator.made (.name ⟨[⟨.generic, [0x6b]⟩]⟩ .unspecified)
    (make { name := .empty } 0).2
  have hnew : Course none false unkeyed.2.2 unkeyed.1 :=
    (Course.start hdrawn (Nat.lt_succ_self _)).draw (Nat.le_of_lt hkey.lt)
  have hallowed : ∀ op ∈ useKey unkeyed.2.1 unkeyed.1, Mutable.Allowed unkeyed.2.2 unkeyed.1 op := by
    rintro _ ⟨⟩
    intro k hk
    cases hk
    exact LiveKeyLocator.Change.allowed_make _ (by decide) _
  exact hnew.act (useKey unkeyed.2.1) hallowed

/-- Adds a component to the name of the key. -/
def extendKeyName (_ : LiveData) : Option Operation :=
  some (.signature (.keyLocator (.name (.update fun name =>
    ⟨name.components ++ [⟨.generic, [0x78]⟩]⟩))))

/-- Sets the name by a path, unless that is refused. -/
def setNameText (text : List Char) (_ : LiveData) : Option Operation :=
  (Name.ofUriText text).toOption.map fun name => .name (.update fun _ => name)

end LiveData

/-- The name of the key is extended, and a text that is no name is refused: the packet answers a
later count. -/
theorem every_change_noticed_key_name :
    let asked := changeCount LiveData.keyed.1 LiveData.keyed.2
    let extended := Mutable.attempt LiveData.extendKeyName asked.1.2 asked.2
    let refused := Mutable.attempt (LiveData.setNameText ['/', '%', 'z']) extended.1.2 extended.2
    refused.1.1 = false ∧ asked.1.1 < (changeCount refused.1.2 refused.2).1.1 := by
  intro asked extended refused
  have hasked : Course (some asked.1.1) false asked.2 asked.1.2 := LiveData.course_keyed.ask
  have hextended : Course (some asked.1.1) true extended.2 extended.1.2 :=
    hasked.act LiveData.extendKeyName (by
      rintro _ ⟨⟩
      exact fun k hk t type ht => trivial)
  have hrefused : Course (some asked.1.1) true refused.2 refused.1.2 :=
    hextended.act (LiveData.setNameText ['/', '%', 'z']) (by
      have hnone : LiveData.setNameText ['/', '%', 'z'] extended.1.2 = none := by decide +kernel
      rw [hnone]
      exact fun _ h => nomatch h)
  exact ⟨by decide +kernel,
    ((every_change_noticed.2.2.1 _ _ _ _ hrefused).1 _ rfl).1 rfl⟩

end NamedData
