import NamedData.Proofs.Live.Ledger

/-!
# A count stands for one state

A process holds any number of names, excludes, meta information, validity periods, key locators and
signatures, and trackers of these. They are made, cloned, changed, asked for their counts, taken out
of each other and put into each other in any order. `Pool` keeps all of them in every state that
they have had, as a clone might have kept it.

One ledger goes with all of a pool (`Pool.ledger`), so that objects with the same count have the same
value, and a tracker that finds no change holds what it held when it last looked.
-/

namespace NamedData

open Observed Recorded Recalling

/-! ## Kinds of parts -/

/-- A type of objects that are parts of others, and what is known about it. -/
structure PartType where
  Value : Type
  Live : Type
  Change : Type
  [counted : ChangeCounted Live]
  [observed : Observed Live Value]
  [lawfulObserved : LawfulObserved Live Value]
  [enterable : Enterable Value]
  [recorded : Recorded Live]
  [lawfulRecorded : LawfulRecorded Live]
  make : Value → Draws Live
  run : Change → Edit Live Bool
  /-- What the change is handed is at hand. -/
  Uses : Stock → Change → Prop
  made (v : Value) (n : Count) : Made n v (make v n).2 (make v n).1
  entered_make (v : Value) (n : Count) (L : Ledger) :
    ∃ L', Ledger.Agrees n L L' ∧ Entered L' (make v n).1
  uses_mono {stock stock' : Stock} {c : Change} (hle : stock.Le stock') (h : Uses stock c) :
    Uses stock' c
  edited {n : Count} {a : Live} {c : Change} (hdrawn : Drawn n a) (h : Uses (.drawn n) c) :
    Edited n a (run c a n).1.1 (run c a n).2 (run c a n).1.2
  entered {n : Count} {L : Ledger} {a : Live} {c : Change} (ha : Entered L a) (hdrawn : Drawn n a)
    (h : Uses (.entered n L) c) : ∃ L', Ledger.Agrees n L L' ∧ Entered L' (run c a n).1.2

namespace PartType

attribute [instance] counted observed lawfulObserved enterable recorded lawfulRecorded

/-- Plain values with a count of their own. -/
def stamped (β : Type) [Enterable β] (hand : Stock → Stamped β → Prop)
    (hand_mono : ∀ stock stock', stock.Le stock' → ∀ a, hand stock a → hand stock' a)
    (hand_drawn : ∀ n a, hand (.drawn n) a → Drawn n a)
    (hand_entered : ∀ n L a, hand (.entered n L) a → Drawn n a ∧ Entered L a) : PartType where
  Value := β
  Live := Stamped β
  Change := Stamped.Change β
  make := Stamped.make
  run := Stamped.Change.run
  Uses stock c := c.Uses (hand stock)
  made := Stamped.made
  entered_make := Stamped.entered_make
  uses_mono hle h := Stamped.Change.uses_mono (hand_mono _ _ hle) h
  edited _ h := Stamped.Change.edited (Stamped.Change.uses_mono (hand_drawn _) h)
  entered _ _ h := Stamped.Change.entered (Stamped.Change.uses_mono (hand_entered _ _) h)

def keyLocator : PartType where
  Value := KeyLocator
  Live := LiveKeyLocator
  Change := LiveKeyLocator.Change
  make := LiveKeyLocator.make
  run := LiveKeyLocator.Change.run
  Uses stock c := c.Uses stock
  made := LiveKeyLocator.made
  entered_make := LiveKeyLocator.entered_make
  uses_mono := LiveKeyLocator.Change.uses_mono
  edited := LiveKeyLocator.Change.edited
  entered := LiveKeyLocator.Change.entered

def signature : PartType where
  Value := Signature
  Live := LiveSignature
  Change := LiveSignature.Change
  make := LiveSignature.make
  run := LiveSignature.Change.run
  Uses stock c := c.Uses stock
  made := LiveSignature.made
  entered_make := LiveSignature.entered_make
  uses_mono := LiveSignature.Change.uses_mono
  edited := LiveSignature.Change.edited
  entered := LiveSignature.Change.entered

end PartType

/-- The kinds of objects that are parts of others. -/
inductive PartKind where
  | name
  | exclude
  | metaInfo
  | validity
  | keyLocator
  | signature
  deriving DecidableEq, Repr

/-- The type of a kind. -/
abbrev PartKind.type : PartKind → PartType
  | name => .stamped Name Stock.name (fun _ _ h => h.name) (fun _ _ h => h) (fun _ _ _ h => h)
  | exclude =>
    .stamped Exclude Stock.exclude (fun _ _ h => h.exclude) (fun _ _ h => h) (fun _ _ _ h => h)
  | metaInfo =>
    .stamped MetaInfo Stock.metaInfo (fun _ _ h => h.metaInfo) (fun _ _ h => h) (fun _ _ _ h => h)
  | validity =>
    .stamped ValidityPeriod Stock.validity (fun _ _ h => h.validity) (fun _ _ h => h)
      (fun _ _ _ h => h)
  | keyLocator => .keyLocator
  | signature => .signature

/-! ## Pools -/

/-- An object, or one that is tracked. -/
inductive Item where
  | part (k : PartKind) (a : k.type.Live)
  | tracker (k : PartKind) (t : Tracked k.type.Live)

/-- What of a pool is at hand for changes. -/
def Stock.ofItems (items : List Item) : Stock where
  name a := .part .name a ∈ items
  exclude a := .part .exclude a ∈ items
  metaInfo a := .part .metaInfo a ∈ items
  validity a := .part .validity a ∈ items
  keyLocator a := .part .keyLocator a ∈ items
  signature a := .part .signature a ∈ items
  trackedName t := .tracker .name t ∈ items

/-- Item `x` comes about from `items`, by which the next count goes from `n` to `n'`. -/
inductive Item.Arises (n : Count) (items : List Item) : (n' : Count) → (x : Item) → Prop where
  | make (k : PartKind) (v : k.type.Value) :
      Arises n items (k.type.make v n).2 (.part k (k.type.make v n).1)
  | ask {k : PartKind} {a : k.type.Live} (ha : .part k a ∈ items) :
      Arises n items (changeCount a n).2 (.part k (changeCount a n).1.2)
  | change {k : PartKind} {a : k.type.Live} (ha : .part k a ∈ items) (c : k.type.Change)
      (hc : k.type.Uses (.ofItems items) c) :
      Arises n items (k.type.run c a n).2 (.part k (k.type.run c a n).1.2)
  | track {k : PartKind} {a : k.type.Live} (ha : .part k a ∈ items) :
      Arises n items (Tracked.make a n).2 (.tracker k (Tracked.make a n).1)
  | replace {k : PartKind} {t : Tracked k.type.Live} (ht : .tracker k t ∈ items) {a : k.type.Live}
      (ha : .part k a ∈ items) :
      Arises n items (Tracked.replace a t n).2 (.tracker k (Tracked.replace a t n).1.2)
  | edit {k : PartKind} {t : Tracked k.type.Live} (ht : .tracker k t ∈ items) (c : k.type.Change)
      (hc : k.type.Uses (.ofItems items) c) :
      Arises n items (Tracked.edit (k.type.run c) t n).2
        (.tracker k (Tracked.edit (k.type.run c) t n).1.2)
  | check {k : PartKind} {t : Tracked k.type.Live} (ht : .tracker k t ∈ items) :
      Arises n items (Tracked.check t n).2 (.tracker k (Tracked.check t n).1.2)
  /-- A part is taken out of its tracker. -/
  | untrack {k : PartKind} {t : Tracked k.type.Live} (ht : .tracker k t ∈ items) :
      Arises n items n (.part k t.part)
  | nameOf {t : Tracked LiveName} {type : KeyNameType} {count : Count}
      (ha : .part .keyLocator ⟨.name t type, count⟩ ∈ items) : Arises n items n (.tracker .name t)
  | keyLocatorOf {s : LiveSignature} {t : Tracked LiveKeyLocator} (ha : .part .signature s ∈ items)
      (ht : s.scheme.keyLocator? = some t) : Arises n items n (.tracker .keyLocator t)
  | validityOf {s : LiveSignature} {t : Tracked LiveValidityPeriod} (ha : .part .signature s ∈ items)
      (ht : s.scheme.validity? = some t) : Arises n items n (.tracker .validity t)

/-- The pools that can come about, with the next count to be drawn. Objects stay in a pool as they
were, and so do their clones. -/
inductive Pool : (n : Count) → (items : List Item) → Prop where
  | start (n : Count) : Pool n []
  /-- Something else draws counts. -/
  | draw {n n' : Count} {items : List Item} (h : Pool n items) (hle : n ≤ n') : Pool n' items
  | arise {n n' : Count} {items : List Item} {x : Item} (h : Pool n items)
      (hx : Item.Arises n items n' x) : Pool n' (x :: items)

/-! ## The ledger of a pool -/

/-- The item can be there when the next count is `n`, and is entered in the ledger. -/
def Item.Holds (n : Count) (L : Ledger) : Item → Prop
  | part _ a => Drawn n a ∧ Entered L a
  | tracker _ t => Drawn n t ∧ ∃ w, Recalls L t w

namespace Item

variable {n n' : Count} {L L' : Ledger} {items : List Item}

theorem Holds.later {x : Item} (h : x.Holds n L) (hle : n ≤ n') (hagree : L.Agrees n L') :
    x.Holds n' L' := by
  cases x with
  | part k a => exact ⟨drawn_mono hle h.1, LawfulRecorded.agree h.2 h.1 hagree⟩
  | tracker k t =>
    obtain ⟨hdrawn, w, hw⟩ := h
    exact ⟨drawn_mono hle hdrawn, w, Recalling.agree hw hdrawn hagree⟩

/-- A ledger that has grown goes with the pool and one more item. -/
theorem holds_cons (h : ∀ x ∈ items, x.Holds n L) (hle : n ≤ n') {x : Item}
    (hx : ∃ L', L.Agrees n L' ∧ x.Holds n' L') : ∃ L', ∀ y ∈ x :: items, y.Holds n' L' := by
  obtain ⟨L', hagree, hx⟩ := hx
  refine ⟨L', fun y hy => ?_⟩
  rcases List.mem_cons.1 hy with rfl | hy
  · exact hx
  · exact (h y hy).later hle hagree

theorem ofItems_le_entered (h : ∀ x ∈ items, x.Holds n L) :
    (Stock.ofItems items).Le (.entered n L) :=
  ⟨fun _ ha => h _ ha, fun _ ha => h _ ha, fun _ ha => h _ ha, fun _ ha => h _ ha, fun _ ha => h _ ha,
    fun _ ha => h _ ha, fun _ ht => h _ ht⟩

/-- A change leaves an object that is entered in a ledger that has grown. -/
theorem holds_change (h : ∀ x ∈ items, x.Holds n L) {k : PartKind} {a : k.type.Live}
    (ha : Drawn n a ∧ Entered L a) {c : k.type.Change} (hc : k.type.Uses (.ofItems items) c) :
    Edited n a (k.type.run c a n).1.1 (k.type.run c a n).2 (k.type.run c a n).1.2
      ∧ ∃ L', L.Agrees n L' ∧ Entered L' (k.type.run c a n).1.2 := by
  have hentered := k.type.uses_mono (ofItems_le_entered h) hc
  have hdrawn := k.type.uses_mono (Stock.entered_le_drawn n L) hentered
  exact ⟨k.type.edited ha.1 hdrawn, k.type.entered ha.2 ha.1 hentered⟩

/-- An object that is tracked anew is recalled by its owner. -/
theorem holds_make {k : PartKind} {a : k.type.Live} (ha : Drawn n a ∧ Entered L a) :
    n ≤ (Tracked.make a n).2
      ∧ ∃ L', L.Agrees n L' ∧ (tracker k (Tracked.make a n).1).Holds (Tracked.make a n).2 L' := by
  have hmade := Tracked.made ha.1
  obtain ⟨L', hagree, hrecalls⟩ := Tracked.recalls_make ha.2 ha.1
  exact ⟨Nat.le_of_lt hmade.lt, L', hagree, hmade.drawn, _, hrecalls⟩

/-- What comes about from a pool goes with a ledger that has grown. -/
theorem Arises.holds {x : Item} (hx : Arises n items n' x) (h : ∀ y ∈ items, y.Holds n L) :
    n ≤ n' ∧ ∃ L', L.Agrees n L' ∧ x.Holds n' L' := by
  cases hx with
  | make k v =>
    have hmade := k.type.made v n
    obtain ⟨L', hagree, hnew⟩ := k.type.entered_make v n L
    exact ⟨Nat.le_of_lt hmade.lt, L', hagree, hmade.drawn, hnew⟩
  | ask ha =>
    obtain ⟨hdrawn, hentered⟩ := h _ ha
    have hlook := LawfulObserved.looked hdrawn
    obtain ⟨L', hagree, hnew⟩ := LawfulRecorded.settle hentered hdrawn
    exact ⟨hlook.le, L', hagree, hlook.drawn, hnew⟩
  | change ha c hc =>
    obtain ⟨hedited, L', hagree, hnew⟩ := holds_change h (h _ ha) hc
    exact ⟨hedited.le, L', hagree, hedited.drawn, hnew⟩
  | track ha | replace _ ha => exact holds_make (h _ ha)
  | edit ht c hc =>
    obtain ⟨hdrawn, w, hw⟩ := h _ ht
    obtain ⟨hedited, L', hagree, hnew⟩ := holds_change h ⟨hdrawn.1, hw.1⟩ hc
    have htracked := Tracked.edited hdrawn hedited
    exact ⟨htracked.le, L', hagree, htracked.drawn, w, Tracked.recalls_edit hw hdrawn hagree hnew⟩
  | check ht =>
    obtain ⟨hdrawn, w, hw⟩ := h _ ht
    have hchecked := Tracked.check_checked hdrawn
    obtain ⟨L', hagree, hnew⟩ := LawfulRecalling.check hw hdrawn
    exact ⟨hchecked.le, L', hagree, hchecked.drawn, _, hnew⟩
  | untrack ht =>
    obtain ⟨hdrawn, w, hw⟩ := h _ ht
    exact ⟨Nat.le_refl _, L, .refl, hdrawn.1, hw.1⟩
  | nameOf ha =>
    obtain ⟨hdrawn, v, ⟨w, hw, rfl⟩, -⟩ := h _ ha
    exact ⟨Nat.le_refl _, L, .refl, hdrawn.1, w, hw⟩
  | keyLocatorOf ha ht =>
    obtain ⟨hdrawn, f, hf, -⟩ := h _ ha
    have hpart := LiveSignature.keyLocatorSlot.drawn_part hdrawn.1 ht
    obtain ⟨w, -, hw, -⟩ := LiveSignature.keyLocatorSlot_splits _ L L _ f _ hf hdrawn.1 .refl ht
    exact ⟨Nat.le_refl _, L, .refl, hpart, w, hw⟩
  | validityOf ha ht =>
    obtain ⟨hdrawn, f, hf, -⟩ := h _ ha
    have hpart := LiveSignature.validitySlot.drawn_part hdrawn.1 ht
    obtain ⟨w, -, hw, -⟩ := LiveSignature.validitySlot_splits _ L L _ f _ hf hdrawn.1 .refl ht
    exact ⟨Nat.le_refl _, L, .refl, hpart, w, hw⟩

end Item

/-- One ledger goes with all of a pool. -/
theorem Pool.ledger {n : Count} {items : List Item} (h : Pool n items) :
    ∃ L, ∀ x ∈ items, Item.Holds n L x := by
  induction h with
  | start n => exact ⟨fun _ => none, fun _ hx => nomatch hx⟩
  | draw _ hle ih =>
    obtain ⟨L, hL⟩ := ih
    exact ⟨L, fun x hx => (hL x hx).later hle .refl⟩
  | arise _ hx ih =>
    obtain ⟨L, hL⟩ := ih
    obtain ⟨hle, hnew⟩ := hx.holds hL
    exact Item.holds_cons hL hle hnew

/-! ## Equal counts -/

/-- Settled objects with the same count have the same value. -/
theorem Item.Holds.value_eq {n : Count} {L : Ledger} {k : PartKind} {a b : k.type.Live}
    (ha : (Item.part k a).Holds n L) (hb : (Item.part k b).Holds n L) (hsa : Settled a)
    (hsb : Settled b) (hcount : ChangeCounted.count a = ChangeCounted.count b) :
    value a = value b := by
  have hsays : L.Says (ChangeCounted.count a) (value a) := LawfulRecorded.stated ha.2 ha.1 hsa
  have hsays' : L.Says (ChangeCounted.count b) (value b) := LawfulRecorded.stated hb.2 hb.1 hsb
  rw [hcount] at hsays
  exact hsays.unique hsays'

/-- An object that is asked for its count is entered in a ledger that has grown. -/
theorem Item.Holds.ask {n : Count} {L : Ledger} {k : PartKind} {a : k.type.Live}
    (ha : (Item.part k a).Holds n L) :
    ∃ L', L.Agrees n L' ∧ (Item.part k (changeCount a n).1.2).Holds (changeCount a n).2 L' := by
  obtain ⟨L', hagree, hnew⟩ := LawfulRecorded.settle ha.2 ha.1
  exact ⟨L', hagree, (LawfulObserved.looked ha.1).drawn, hnew⟩

namespace PutBack

def locator : LiveKeyLocator × Count :=
  LiveKeyLocator.make (.name ⟨[⟨.generic, [0x6b]⟩]⟩ .unspecified) 0

def owner : Tracked LiveKeyLocator × Count :=
  Tracked.make locator.1 locator.2

def extend : LiveKeyLocator.Change :=
  .name (.update fun name => ⟨name.components ++ [⟨.generic, [0x78]⟩]⟩)

def extended : (Bool × Tracked LiveKeyLocator) × Count :=
  Tracked.edit extend.run owner.1 owner.2

def restored : (Bool × Tracked LiveKeyLocator) × Count :=
  Tracked.edit (LiveKeyLocator.Change.assign locator.1).run extended.1.2 extended.2

theorem pool :
    Pool restored.2 [.tracker .keyLocator restored.1.2, .tracker .keyLocator extended.1.2,
      .tracker .keyLocator owner.1, .part .keyLocator locator.1] := by
  have hlocator : Pool locator.2 [.part .keyLocator locator.1] :=
    (Pool.start 0).arise (.make .keyLocator _)
  have howner := hlocator.arise (.track (.head _))
  have hextended := howner.arise (.edit (k := .keyLocator) (.head _) extend trivial)
  exact hextended.arise
    (.edit (k := .keyLocator) (.head _) (.assign locator.1) (.tail _ (.tail _ (.head _))))

end PutBack

end NamedData
