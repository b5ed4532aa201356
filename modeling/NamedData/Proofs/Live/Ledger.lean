import NamedData.Proofs.Live.Operands

/-!
# What counts stand for

A ledger says which value each count stands for. It grows with the sequence: a count that has been
drawn stands for the same value ever after (`Ledger.Agrees`).

An object is entered in the ledger (`Entered`) if its own count stands for its value as far as it
knows: where it tracks a part, that is the value that the count which its tracker remembers stands
for (`Recalls`), whatever the part has become since. Once it is settled the two are the same, and
then its count stands for the value that it has. Each change of an object, and each answer, leaves
an object that is entered in some ledger that has grown.
-/

namespace NamedData

open Observed

/-! ## Ledgers -/

/-- A value that a count stands for. -/
inductive Entry where
  | name (v : Name)
  | exclude (v : Exclude)
  | metaInfo (v : MetaInfo)
  | validity (v : ValidityPeriod)
  | keyLocator (v : KeyLocator)
  | signature (v : Signature)

/-- Values that counts can stand for. -/
class Enterable (V : Type) where
  entry : V → Entry
  entry_inj {v w : V} : entry v = entry w → v = w

open Enterable

instance : Enterable Name := ⟨.name, Entry.name.inj⟩
instance : Enterable Exclude := ⟨.exclude, Entry.exclude.inj⟩
instance : Enterable MetaInfo := ⟨.metaInfo, Entry.metaInfo.inj⟩
instance : Enterable ValidityPeriod := ⟨.validity, Entry.validity.inj⟩
instance : Enterable KeyLocator := ⟨.keyLocator, Entry.keyLocator.inj⟩
instance : Enterable Signature := ⟨.signature, Entry.signature.inj⟩

/-- What the counts that were drawn stand for. -/
abbrev Ledger := Count → Option Entry

namespace Ledger

/-- The count stands for the value. -/
def Says {V : Type} [Enterable V] (L : Ledger) (c : Count) (v : V) : Prop :=
  L c = some (entry v)

/-- Enters a value under a count. -/
def record {V : Type} [Enterable V] (L : Ledger) (c : Count) (v : V) : Ledger :=
  fun c' => if c' = c then some (entry v) else L c'

/-- What stood in ledger `L` when the next count was `n` stands in `L'`. -/
def Agrees (n : Count) (L L' : Ledger) : Prop :=
  ∀ c < n, L' c = L c

variable {V : Type} [Enterable V] {L L₁ L' : Ledger} {n n₁ c : Count} {v w : V}

theorem Says.unique (h : L.Says c v) (h' : L.Says c w) : v = w :=
  entry_inj (Option.some.inj (h.symm.trans h'))

theorem Says.agree (h : L.Says c v) (hc : c < n) (hagree : Agrees n L L') : L'.Says c v :=
  (hagree c hc).trans h

theorem says_record (L : Ledger) (c : Count) (v : V) : (L.record c v).Says c v :=
  if_pos rfl

theorem agrees_record (hle : n ≤ c) (v : V) : Agrees n L (L.record c v) := by
  intro c' hc'
  exact if_neg (by lia)

theorem Agrees.refl : Agrees n L L :=
  fun _ _ => rfl

theorem Agrees.trans (h : Agrees n L L₁) (hle : n ≤ n₁) (h₁ : Agrees n₁ L₁ L') : Agrees n L L' :=
  fun c hc => (h₁ c (Nat.lt_of_lt_of_le hc hle)).trans (h c hc)

end Ledger

open Ledger

/-! ## Objects that are entered -/

/-- Objects that can be entered in ledgers. -/
class Recorded (α : Type) where
  /-- The count of the object stands for its value as far as it knows, and so for its parts. -/
  Entered : Ledger → α → Prop

open Recorded

/-- Objects that stay entered, and are settled under counts that stand for their values. -/
class LawfulRecorded (α : Type) {V : outParam Type} [ChangeCounted α] [Observed α V] [Enterable V]
    [Recorded α] : Prop where
  agree {n : Count} {L L' : Ledger} {a : α} (h : Entered L a) (hdrawn : Drawn n a)
    (hagree : Agrees n L L') : Entered L' a
  stated {n : Count} {L : Ledger} {a : α} (h : Entered L a) (hdrawn : Drawn n a) (hs : Settled a) :
    L.Says (ChangeCounted.count a) (value a)
  settle {n : Count} {L : Ledger} {a : α} (h : Entered L a) (hdrawn : Drawn n a) :
    ∃ L', Agrees n L L' ∧ Entered L' (ChangeCounted.settle a n).1.2

instance {β : Type} [Enterable β] : Recorded (Stamped β) where
  Entered L s := L.Says s.count s.value

instance {β : Type} [Enterable β] : LawfulRecorded (Stamped β) where
  agree h hdrawn hagree := h.agree hdrawn hagree
  stated h _ _ := h
  settle {_ L _} h _ := ⟨L, .refl, h⟩

/-- Parts whose owner recalls values of them. -/
class Recalling (τ : Type) {W : outParam Type} [Observed τ W] where
  /-- The owner recalls these values, and what the parts are now is entered. -/
  Recalls : Ledger → τ → W → Prop
  agree {n : Count} {L L' : Ledger} {p : τ} {w : W} (h : Recalls L p w) (hdrawn : Drawn n p)
    (hagree : Agrees n L L') : Recalls L' p w
  value_eq {n : Count} {L : Ledger} {p : τ} {w : W} (h : Recalls L p w) (hdrawn : Drawn n p)
    (hs : Settled p) : value p = w

open Recalling

instance {α β V W : Type} [Observed α V] [Observed β W] [Recalling α] [Recalling β] :
    Recalling (α × β) where
  Recalls L p w := Recalls L p.1 w.1 ∧ Recalls L p.2 w.2
  agree h hdrawn hagree := ⟨Recalling.agree h.1 hdrawn.1 hagree, Recalling.agree h.2 hdrawn.2 hagree⟩
  value_eq h hdrawn hs :=
    Prod.ext (Recalling.value_eq h.1 hdrawn.1 hs.1) (Recalling.value_eq h.2 hdrawn.2 hs.2)

/-- Parts whose owner recalls the values that they have once it has looked at them. -/
class LawfulRecalling (τ : Type) {W : outParam Type} [Checkable τ] [Observed τ W]
    [Recalling τ] : Prop where
  check {n : Count} {L : Ledger} {p : τ} {w : W} (h : Recalls L p w) (hdrawn : Drawn n p) :
    ∃ L', Agrees n L L' ∧ Recalls L' (Checkable.check p n).1.2 (value p)

instance {α β V W : Type} [Checkable α] [Checkable β] [Observed α V] [Observed β W]
    [LawfulCheckable α V] [Recalling α] [Recalling β] [LawfulRecalling α] [LawfulRecalling β] :
    LawfulRecalling (α × β) where
  check {n L p w} h hdrawn := by
    obtain ⟨p, q⟩ := p
    have hchecked := LawfulCheckable.checked hdrawn.1
    have hq := drawn_mono hchecked.le hdrawn.2
    obtain ⟨L₁, hagree, hp'⟩ := LawfulRecalling.check h.1 hdrawn.1
    obtain ⟨L', hagree', hq'⟩ := LawfulRecalling.check (Recalling.agree h.2 hdrawn.2 hagree) hq
    rw [check_prod_apply]
    exact ⟨L', hagree.trans hchecked.le hagree', Recalling.agree hp' hchecked.drawn hagree', hq'⟩

namespace Tracked

variable {α V : Type} [ChangeCounted α] [Observed α V] [Enterable V] [Recorded α]
  [LawfulRecorded α]

instance : Recalling (Tracked α) where
  Recalls L t w := Entered L t.part ∧ L.Says t.seen w
  agree h hdrawn hagree := ⟨LawfulRecorded.agree h.1 hdrawn.1 hagree, h.2.agree hdrawn.2.1 hagree⟩
  value_eq {_ L t w} h hdrawn hs := by
    have hsays : L.Says (ChangeCounted.count t.part) (value t.part) :=
      LawfulRecorded.stated h.1 hdrawn.1 hs.1
    rw [hs.2] at hsays
    exact hsays.unique h.2

variable [LawfulObserved α V] {n : Count} {L : Ledger}

/-- A part that was asked for its count is entered under the count that it answers. -/
private theorem asked {a : α} (h : Entered L a) (hdrawn : Drawn n a) :
    ∃ L', Agrees n L L' ∧ Entered L' (ChangeCounted.settle a n).1.2
      ∧ L'.Says (ChangeCounted.count (ChangeCounted.settle a n).1.2) (value a) := by
  have hlook := LawfulObserved.looked hdrawn
  obtain ⟨L', hagree, hentered⟩ := LawfulRecorded.settle h hdrawn
  refine ⟨L', hagree, hentered, ?_⟩
  rw [← hlook.value_eq]
  exact LawfulRecorded.stated hentered hlook.drawn hlook.settled

/-- The owner of a part that is new in its place recalls its value. -/
theorem recalls_make {a : α} (h : Entered L a) (hdrawn : Drawn n a) :
    ∃ L', Agrees n L L' ∧ Recalls L' (make a n).1 (value a) :=
  asked h hdrawn

instance : LawfulRecalling (Tracked α) where
  check {n L t w} h hdrawn := by
    show ∃ L', Agrees n L L' ∧ Recalls L' (check t n).1.2 (value t)
    by_cases hs : Settled t
    · rw [check_of_settled hdrawn hs]
      exact ⟨L, .refl, Recalling.value_eq h hdrawn hs ▸ h⟩
    · rw [check_apply, if_neg (count_ne_seen hdrawn hs)]
      exact asked h.1 hdrawn.1

omit [LawfulObserved α V] in
/-- A change of the part does not change what the owner recalls. -/
theorem recalls_edit {L' : Ledger} {t : Tracked α} {w : V} {a : α} (h : Recalls L t w)
    (hdrawn : Drawn n t) (hagree : Agrees n L L') (ha : Entered L' a) :
    Recalls L' { t with part := a } w :=
  ⟨ha, h.2.agree hdrawn.2.1 hagree⟩

end Tracked

/-- What is recalled of the part in a place can be told apart from what is recalled of the others. -/
def Place.Splits {τ α V W : Type} [Observed τ W] [Observed α V] [Recalling τ] [Recalling α]
    (place : Place τ α) : Prop :=
  ∀ (n : Count) (L L' : Ledger) (p : τ) (w : W), Recalls L p w → Drawn n p → Agrees n L L' →
    ∃ (v : V) (g : V → W), Recalls L (place.view p) v ∧ w = g v
      ∧ ∀ a v', Recalls L' a v' → Recalls L' (place.put a p) (g v')

namespace Place

variable {α β γ V W U : Type} [Observed α V] [Observed β W] [Observed γ U] [Recalling α]
  [Recalling β] [Recalling γ]

theorem splits_here : (here : Place α α).Splits := by
  intro n L L' p w h _ _
  exact ⟨w, id, h, rfl, fun _ _ h' => h'⟩

theorem Splits.left {place : Place α γ} (h : place.Splits) : (place.left : Place (α × β) γ).Splits := by
  intro n L L' p w hw hdrawn hagree
  obtain ⟨v, g, hv, hg, hput⟩ := h n L L' p.1 w.1 hw.1 hdrawn.1 hagree
  exact ⟨v, fun v => (g v, w.2), hv, Prod.ext hg rfl,
    fun a v' h' => ⟨hput a v' h', Recalling.agree hw.2 hdrawn.2 hagree⟩⟩

theorem Splits.right {place : Place β γ} (h : place.Splits) :
    (place.right : Place (α × β) γ).Splits := by
  intro n L L' p w hw hdrawn hagree
  obtain ⟨v, g, hv, hg, hput⟩ := h n L L' p.2 w.2 hw.2 hdrawn.2 hagree
  exact ⟨v, fun v => (w.1, g v), hv, Prod.ext rfl hg,
    fun a v' h' => ⟨Recalling.agree hw.1 hdrawn.1 hagree, hput a v' h'⟩⟩

end Place

/-- An object made of parts and a count is entered if its owner recalls values of the parts and the
count stands for these. After it was asked for its count, that stands for the values they have. -/
theorem Recorded.ofChecked {α V τ W : Type} [Observed τ W] [Recalling τ] [Enterable V] [Recorded α]
    (make : τ → Count → α) (v : W → V)
    (hentered : ∀ L p c, Entered L (make p c) ↔ ∃ w, Recalls L p w ∧ L.Says c (v w))
    {n n' c : Count} {L : Ledger} {p p' : τ} {changed : Bool} (hold : Entered L (make p c))
    (h : Checked n p changed n' p')
    (hp : ∃ L₁, Agrees n L L₁ ∧ Recalls L₁ p' (value p)) :
    ∃ L', Agrees n L L' ∧ Entered L' (make p' (if changed then n' else c)) := by
  cases changed with
  | false =>
    obtain ⟨-, rfl, -⟩ := h.same rfl
    exact ⟨L, .refl, hold⟩
  | true =>
    -- the count drawn last is entered for what the parts are now
    obtain ⟨L₁, hagree, hrecalls⟩ := hp
    refine ⟨L₁.record n' (v (value p)), hagree.trans h.le (agrees_record (Nat.le_refl n') _), ?_⟩
    refine (hentered _ _ _).2 ⟨_, Recalling.agree hrecalls h.drawn (agrees_record (Nat.le_refl n') _),
      says_record _ _ _⟩

/-! ## Values with a count of their own -/

namespace Stamped

variable {β : Type} [Enterable β] {n : Count} {L : Ledger}

theorem entered_make (v : β) (n : Count) (L : Ledger) :
    ∃ L', Agrees n L L' ∧ Entered L' (make v n).1 :=
  ⟨L.record n v, agrees_record (Nat.le_refl n) v, says_record L n v⟩

theorem Change.entered {c : Change β} {s : Stamped β}
    (h : c.Uses fun a => Drawn n a ∧ Entered L a) :
    ∃ L', Agrees n L L' ∧ Entered L' (c.run s n).1.2 := by
  cases c with
  | update f => exact entered_make (f s.value) n L
  | assign s' => exact ⟨L, .refl, h.2⟩

end Stamped

/-! ## Key locators -/

namespace LiveKeyLocator

/-- The locator, as far as its owner knows. -/
def Kind.Recalls (L : Ledger) : Kind → KeyLocator → Prop
  | .name t type, v => ∃ w, Recalling.Recalls L t w ∧ v = .name w type
  | .absent, v => v = .absent
  | .key bytes, v => v = .key bytes
  | .certificate bytes, v => v = .certificate bytes
  | .digest bytes, v => v = .digest bytes

theorem Kind.recalls_agree {n : Count} {L L' : Ledger} {kind : Kind} {v : KeyLocator}
    (h : kind.Recalls L v) (hdrawn : kind.Drawn n) (hagree : Agrees n L L') : kind.Recalls L' v := by
  cases kind with
  | name t type =>
    obtain ⟨w, hw, rfl⟩ := h
    exact ⟨w, Recalling.agree hw hdrawn hagree, rfl⟩
  | absent | key | certificate | digest => exact h

instance : Recorded LiveKeyLocator where
  Entered L k := ∃ v, k.kind.Recalls L v ∧ L.Says k.count v

instance : LawfulRecorded LiveKeyLocator where
  agree := by
    rintro n L L' k ⟨v, hv, hsays⟩ hdrawn hagree
    exact ⟨v, Kind.recalls_agree hv hdrawn.1 hagree, hsays.agree hdrawn.2 hagree⟩
  stated := by
    rintro n L ⟨kind, count⟩ ⟨v, hv, hsays⟩ hdrawn hs
    cases kind with
    | name t type =>
      obtain ⟨w, hw, rfl⟩ := hv
      obtain rfl := Recalling.value_eq hw hdrawn.1 hs
      exact hsays
    | absent | key | certificate | digest =>
      cases hv
      exact hsays
  settle := by
    rintro n L ⟨kind, count⟩ h hdrawn
    cases kind with
    | name t type =>
      obtain ⟨v, ⟨w, hw, rfl⟩, hsays⟩ := h
      rw [settle_name_apply]
      refine Recorded.ofChecked (fun t count => (⟨.name t type, count⟩ : LiveKeyLocator))
        (KeyLocator.name · type) ?_ ⟨_, ⟨w, hw, rfl⟩, hsays⟩ (Tracked.check_checked hdrawn.1)
        (LawfulRecalling.check hw hdrawn.1)
      intro L t c
      constructor
      · rintro ⟨_, ⟨w, hw, rfl⟩, hsays⟩
        exact ⟨w, hw, hsays⟩
      · rintro ⟨w, hw, hsays⟩
        exact ⟨_, ⟨w, hw, rfl⟩, hsays⟩
    | absent | key | certificate | digest => exact ⟨L, .refl, h⟩

/-- A kind of locator with a count drawn for it is entered. -/
theorem entered_of_recalls {n n₁ : Count} {L : Ledger} {kind : Kind} {v : KeyLocator} (hle : n ≤ n₁)
    (hdrawn : kind.Drawn n₁) (h : ∃ L₁, Agrees n L L₁ ∧ kind.Recalls L₁ v) :
    ∃ L', Agrees n L L' ∧ Entered L' (⟨kind, n₁⟩ : LiveKeyLocator) := by
  obtain ⟨L₁, hagree, hv⟩ := h
  have hnew := agrees_record (L := L₁) (Nat.le_refl n₁) v
  exact ⟨L₁.record n₁ v, hagree.trans hle hnew, v, Kind.recalls_agree hv hdrawn hnew, says_record L₁ n₁ v⟩

end LiveKeyLocator

/-! ## Signatures -/

namespace LiveSignature

/-- The signature that the bytes would make, as far as its owner knows. -/
def Scheme.Recalls (L : Ledger) : Scheme → (Bytes → Signature) → Prop
  | .digestSha256, f => f = .digestSha256
  | .hmacWithSha256 k, f => ∃ w, Recalling.Recalls L k w ∧ f = (.hmacWithSha256 · w)
  | .sha256WithRsa k period, f =>
    ∃ w, Recalling.Recalls L (k, period) w ∧ f = (.sha256WithRsa · w.1 w.2)
  | .sha256WithEcdsa k period, f =>
    ∃ w, Recalling.Recalls L (k, period) w ∧ f = (.sha256WithEcdsa · w.1 w.2)
  | .generic info typeCode, f => f = (.generic · info typeCode)

theorem Scheme.recalls_agree {n : Count} {L L' : Ledger} {scheme : Scheme} {f : Bytes → Signature}
    (h : scheme.Recalls L f) (hdrawn : scheme.Drawn n) (hagree : Agrees n L L') :
    scheme.Recalls L' f := by
  cases scheme with
  | digestSha256 | generic => exact h
  | hmacWithSha256 k =>
    obtain ⟨w, hw, rfl⟩ := h
    exact ⟨w, Recalling.agree hw hdrawn hagree, rfl⟩
  | sha256WithRsa k period | sha256WithEcdsa k period =>
    obtain ⟨w, hw, rfl⟩ := h
    exact ⟨w, Recalling.agree hw hdrawn hagree, rfl⟩

instance : Recorded LiveSignature where
  Entered L s := ∃ f, s.scheme.Recalls L f ∧ L.Says s.count (f s.bytes)

/-- A signature whose scheme has parts is settled by looking at these. -/
private theorem entered_iff {τ W : Type} [Observed τ W] [Recalling τ] {s : τ → Scheme}
    {bytes : Bytes} {v : W → Bytes → Signature}
    (hscheme : ∀ L p f, (s p).Recalls L f ↔ ∃ w, Recalling.Recalls L p w ∧ f = v w)
    (L : Ledger) (p : τ) (c : Count) :
    Entered L (⟨bytes, s p, c⟩ : LiveSignature)
      ↔ ∃ w, Recalling.Recalls L p w ∧ L.Says c (v w bytes) := by
  constructor
  · rintro ⟨f, hf, hsays⟩
    obtain ⟨w, hw, rfl⟩ := (hscheme L p f).1 hf
    exact ⟨w, hw, hsays⟩
  · rintro ⟨w, hw, hsays⟩
    exact ⟨v w, (hscheme L p _).2 ⟨w, hw, rfl⟩, hsays⟩

private theorem settle_both {scheme : Tracked LiveKeyLocator → Tracked LiveValidityPeriod → Scheme}
    (hscheme : scheme = .sha256WithRsa ∨ scheme = .sha256WithEcdsa)
    {v : KeyLocator × ValidityPeriod → Bytes → Signature}
    (hrecalls : ∀ L (p : Tracked LiveKeyLocator × Tracked LiveValidityPeriod) f,
      (scheme p.1 p.2).Recalls L f ↔ ∃ w, Recalling.Recalls L p w ∧ f = v w)
    {n count : Count} {L : Ledger} {bytes : Bytes}
    {p : Tracked LiveKeyLocator × Tracked LiveValidityPeriod}
    (h : Entered L (⟨bytes, scheme p.1 p.2, count⟩ : LiveSignature)) (hdrawn : Drawn n p) :
    ∃ L', Agrees n L L' ∧
      Entered L' (ChangeCounted.settle (⟨bytes, scheme p.1 p.2, count⟩ : LiveSignature) n).1.2 := by
  obtain ⟨f, hf, -⟩ := id h
  obtain ⟨w, hw, -⟩ := (hrecalls L p f).1 hf
  rw [settle_both_apply hscheme]
  exact Recorded.ofChecked
    (fun p count => (⟨bytes, scheme p.1 p.2, count⟩ : LiveSignature)) (v · bytes)
    (entered_iff (s := fun p : Tracked LiveKeyLocator × Tracked LiveValidityPeriod =>
      scheme p.1 p.2) hrecalls) h (LawfulCheckable.checked hdrawn) (LawfulRecalling.check hw hdrawn)

instance : LawfulRecorded LiveSignature where
  agree := by
    rintro n L L' s ⟨f, hf, hsays⟩ hdrawn hagree
    exact ⟨f, Scheme.recalls_agree hf hdrawn.1 hagree, hsays.agree hdrawn.2 hagree⟩
  stated := by
    rintro n L ⟨bytes, scheme, count⟩ ⟨f, hf, hsays⟩ hdrawn hs
    cases scheme with
    | digestSha256 | generic =>
      cases hf
      exact hsays
    | hmacWithSha256 k =>
      obtain ⟨w, hw, rfl⟩ := hf
      obtain rfl := Recalling.value_eq hw hdrawn.1 hs
      exact hsays
    | sha256WithRsa k period | sha256WithEcdsa k period =>
      obtain ⟨w, hw, rfl⟩ := hf
      obtain rfl := Recalling.value_eq hw hdrawn.1 hs
      exact hsays
  settle := by
    rintro n L ⟨bytes, scheme, count⟩ h hdrawn
    cases scheme with
    | digestSha256 | generic => exact ⟨L, .refl, h⟩
    | hmacWithSha256 k =>
      obtain ⟨f, ⟨w, hw, rfl⟩, hsays⟩ := id h
      rw [settle_hmac_apply]
      exact Recorded.ofChecked (fun k count => (⟨bytes, .hmacWithSha256 k, count⟩ : LiveSignature))
        (Signature.hmacWithSha256 bytes)
        (entered_iff (v := fun w bytes => .hmacWithSha256 bytes w) fun _ _ _ => Iff.rfl) h
        (Tracked.check_checked hdrawn.1) (LawfulRecalling.check hw hdrawn.1)
    | sha256WithRsa k period =>
      exact settle_both (p := (k, period)) (.inl rfl) (fun _ _ _ => Iff.rfl) h hdrawn.1
    | sha256WithEcdsa k period =>
      exact settle_both (p := (k, period)) (.inr rfl) (fun _ _ _ => Iff.rfl) h hdrawn.1

end LiveSignature

/-! ## Changes of objects that are entered -/

/-- What is at hand and entered in the ledger. -/
def Stock.entered (n : Count) (L : Ledger) : Stock where
  name a := Drawn n a ∧ Entered L a
  exclude a := Drawn n a ∧ Entered L a
  metaInfo a := Drawn n a ∧ Entered L a
  validity a := Drawn n a ∧ Entered L a
  keyLocator a := Drawn n a ∧ Entered L a
  signature a := Drawn n a ∧ Entered L a
  trackedName t := Drawn n t ∧ ∃ w, Recalls L t w

theorem Stock.entered_le_drawn (n : Count) (L : Ledger) : (Stock.entered n L).Le (.drawn n) :=
  ⟨fun _ h => h.1, fun _ h => h.1, fun _ h => h.1, fun _ h => h.1, fun _ h => h.1, fun _ h => h.1,
    fun _ h => h.1⟩

/-- Parts `p` of values `w` at count `n'` are what making them at `n` leaves behind, and their owner
recalls these values. -/
structure Built {τ W : Type} [Observed τ W] [Recalling τ] (n : Count) (w : W) (n' : Count) (p : τ) :
    Prop extends Made n w n' p where
  recalls (L : Ledger) : ∃ L', Agrees n L L' ∧ Recalls L' p w

/-- Parts are made one after the other. -/
theorem Built.prod {α β V W : Type} [Observed α V] [Observed β W] [Recalling α] [Recalling β]
    {n n₁ n₂ : Count} {v : V} {w : W} {a : α} {b : β} (ha : Built n v n₁ a) (hb : Built n₁ w n₂ b) :
    Built n (v, w) n₂ (a, b) where
  toMade := ha.toMade.prod hb.toMade
  recalls L := by
    obtain ⟨L₁, hagree, hv⟩ := ha.recalls L
    obtain ⟨L', hagree', hw⟩ := hb.recalls L₁
    exact ⟨L', hagree.trans (Nat.le_of_lt ha.lt) hagree', Recalling.agree hv ha.drawn hagree', hw⟩

/-- The owner recalls the value of a part that was made for it. -/
theorem Tracked.built {α V : Type} [ChangeCounted α] [Observed α V] [LawfulObserved α V]
    [Enterable V] [Recorded α] [LawfulRecorded α] {n n₁ : Count} {v : V} {a : α}
    (hmade : Made n v n₁ a) (h : ∀ L, ∃ L', Agrees n L L' ∧ Entered L' a) :
    Built n v (make a n₁).2 (make a n₁).1 where
  toMade := Tracked.made_of_made hmade
  recalls L := by
    obtain ⟨L₁, hagree, ha⟩ := h L
    obtain ⟨L', hagree', hrecalls⟩ := recalls_make ha hmade.drawn
    exact ⟨L', hagree.trans (Nat.le_of_lt hmade.lt) hagree', hmade.value_eq ▸ hrecalls⟩

/-- A plain value is made for its owner. -/
theorem Stamped.built {β : Type} [Enterable β] (v : β) (n : Count) :
    Built n v (Tracked.make (make v n).1 (make v n).2).2
      (Tracked.make (make v n).1 (make v n).2).1 :=
  Tracked.built (Stamped.made v n) (Stamped.entered_make v n)

namespace LiveKeyLocator

variable {n : Count} {L : Ledger}

theorem entered_make (v : KeyLocator) (n : Count) (L : Ledger) :
    ∃ L', Agrees n L L' ∧ Entered L' (make v n).1 := by
  cases v with
  | name v type =>
    have hname := Stamped.built v n
    obtain ⟨L₁, hagree, hrecalls⟩ := hname.recalls L
    exact entered_of_recalls (Nat.le_of_lt hname.lt) hname.drawn ⟨L₁, hagree, v, hrecalls, rfl⟩
  | absent | key | certificate | digest =>
    exact entered_of_recalls (Nat.le_refl n) trivial ⟨L, .refl, rfl⟩

/-- A kind of locator that is at hand is recalled. -/
theorem Kind.recalls_of_uses {kind : Kind} (h : kind.Uses (.entered n L)) :
    kind.Drawn n ∧ ∃ v, kind.Recalls L v := by
  cases kind with
  | name t type =>
    obtain ⟨hdrawn, w, hw⟩ := h
    exact ⟨hdrawn, _, w, hw, rfl⟩
  | absent | key | certificate | digest => exact ⟨trivial, _, rfl⟩

theorem Change.entered {c : Change} {k : LiveKeyLocator} (hk : Entered L k) (hdrawn : Drawn n k)
    (h : c.Uses (.entered n L)) : ∃ L', Agrees n L L' ∧ Entered L' (c.run k n).1.2 := by
  cases c with
  | setKind kind =>
    obtain ⟨hkind, v, hv⟩ := Kind.recalls_of_uses h
    exact entered_of_recalls (Nat.le_refl n) hkind ⟨L, .refl, hv⟩
  | setName new type =>
    have hmade := Tracked.made h.1
    obtain ⟨L₁, hagree, hrecalls⟩ := Tracked.recalls_make h.2 h.1
    exact entered_of_recalls (Nat.le_of_lt hmade.lt) hmade.drawn ⟨L₁, hagree, _, hrecalls, rfl⟩
  | name c =>
    obtain ⟨kind, count⟩ := k
    cases kind with
    | name t type =>
      obtain ⟨v, ⟨w, hw, rfl⟩, hsays⟩ := hk
      obtain ⟨L', hagree, hname⟩ := Stamped.Change.entered (s := t.part) h
      exact ⟨L', hagree, _, ⟨w, Tracked.recalls_edit hw hdrawn.1 hagree hname, rfl⟩,
        hsays.agree hdrawn.2 hagree⟩
    | absent | key | certificate | digest => exact ⟨L, .refl, hk⟩
  | assign k' => exact ⟨L, .refl, h.2⟩

end LiveKeyLocator

namespace LiveSignature

variable {n : Count} {L : Ledger}

/-- A scheme with a count drawn for it is entered. -/
theorem entered_of_recalls {n₁ : Count} {scheme : Scheme} {f : Bytes → Signature} {bytes : Bytes}
    (hle : n ≤ n₁) (hdrawn : scheme.Drawn n₁) (h : ∃ L₁, Agrees n L L₁ ∧ scheme.Recalls L₁ f) :
    ∃ L', Agrees n L L' ∧ Entered L' (⟨bytes, scheme, n₁⟩ : LiveSignature) := by
  obtain ⟨L₁, hagree, hf⟩ := h
  have hnew := agrees_record (L := L₁) (Nat.le_refl n₁) (f bytes)
  exact ⟨L₁.record n₁ (f bytes), hagree.trans hle hnew, f, Scheme.recalls_agree hf hdrawn hnew,
    says_record L₁ n₁ (f bytes)⟩

theorem entered_make (v : Signature) (n : Count) (L : Ledger) :
    ∃ L', Agrees n L L' ∧ Entered L' (make v n).1 := by
  have hkey : ∀ k, Built n k (makeKeyLocator k n).2 (makeKeyLocator k n).1 := fun k =>
    Tracked.built (LiveKeyLocator.made k n) (LiveKeyLocator.entered_make k n)
  have hboth : ∀ k period, Built n (k, period) (makeValidity period (makeKeyLocator k n).2).2
      ((makeKeyLocator k n).1, (makeValidity period (makeKeyLocator k n).2).1) := fun k period =>
    (hkey k).prod (Stamped.built period _)
  cases v with
  | digestSha256 | generic => exact entered_of_recalls (Nat.le_refl n) trivial ⟨L, .refl, rfl⟩
  | hmacWithSha256 bytes k =>
    obtain ⟨L₁, hagree, hk⟩ := (hkey k).recalls L
    exact entered_of_recalls (Nat.le_of_lt (hkey k).lt) (hkey k).drawn ⟨L₁, hagree, k, hk, rfl⟩
  | sha256WithRsa bytes k period =>
    obtain ⟨L₁, hagree, hparts⟩ := (hboth k period).recalls L
    exact entered_of_recalls (Nat.le_of_lt (hboth k period).lt) (hboth k period).drawn
      ⟨L₁, hagree, (k, period), hparts, rfl⟩
  | sha256WithEcdsa bytes k period =>
    obtain ⟨L₁, hagree, hparts⟩ := (hboth k period).recalls L
    exact entered_of_recalls (Nat.le_of_lt (hboth k period).lt) (hboth k period).drawn
      ⟨L₁, hagree, (k, period), hparts, rfl⟩

/-! ### Parts that a scheme may have -/

section Slot

variable {α V : Type} [ChangeCounted α] [Observed α V] [Enterable V] [Recorded α]
  [LawfulRecorded α]

/-- What is recalled of the part in a place can be told apart from what is recalled of the rest. -/
def Slot.Splits (slot : Slot α V) : Prop :=
  ∀ (n : Count) (L L' : Ledger) (scheme : Scheme) (f : Bytes → Signature) (t : Tracked α),
    scheme.Recalls L f → scheme.Drawn n → Agrees n L L' → slot.part? scheme = some t →
      ∃ (w : V) (g : V → Bytes → Signature), Recalls L t w ∧ f = g w
        ∧ ∀ t' w', Recalls L' t' w' → (slot.withPart t' scheme).Recalls L' (g w')

theorem keyLocatorSlot_splits : keyLocatorSlot.Splits := by
  intro n L L' scheme f t h hdrawn hagree ht
  cases scheme with
  | digestSha256 | generic => cases ht
  | hmacWithSha256 k =>
    cases ht
    obtain ⟨w, hw, rfl⟩ := h
    exact ⟨w, fun w bytes => .hmacWithSha256 bytes w, hw, rfl, fun t' w' h' => ⟨w', h', rfl⟩⟩
  | sha256WithRsa k period =>
    cases ht
    obtain ⟨w, hw, rfl⟩ := h
    exact ⟨w.1, fun v bytes => .sha256WithRsa bytes v w.2, hw.1, rfl,
      fun t' w' h' => ⟨(w', w.2), ⟨h', Recalling.agree hw.2 hdrawn.2 hagree⟩, rfl⟩⟩
  | sha256WithEcdsa k period =>
    cases ht
    obtain ⟨w, hw, rfl⟩ := h
    exact ⟨w.1, fun v bytes => .sha256WithEcdsa bytes v w.2, hw.1, rfl,
      fun t' w' h' => ⟨(w', w.2), ⟨h', Recalling.agree hw.2 hdrawn.2 hagree⟩, rfl⟩⟩

theorem validitySlot_splits : validitySlot.Splits := by
  intro n L L' scheme f t h hdrawn hagree ht
  cases scheme with
  | digestSha256 | hmacWithSha256 | generic => cases ht
  | sha256WithRsa k period =>
    cases ht
    obtain ⟨w, hw, rfl⟩ := h
    exact ⟨w.2, fun v bytes => .sha256WithRsa bytes w.1 v, hw.2, rfl,
      fun t' w' h' => ⟨(w.1, w'), ⟨Recalling.agree hw.1 hdrawn.1 hagree, h'⟩, rfl⟩⟩
  | sha256WithEcdsa k period =>
    cases ht
    obtain ⟨w, hw, rfl⟩ := h
    exact ⟨w.2, fun v bytes => .sha256WithEcdsa bytes w.1 v, hw.2, rfl,
      fun t' w' h' => ⟨(w.1, w'), ⟨Recalling.agree hw.1 hdrawn.1 hagree, h'⟩, rfl⟩⟩

variable {slot : Slot α V} {s : LiveSignature}

theorem Slot.entered_put [LawfulObserved α V] (hslot : slot.Splits) (hs : Entered L s)
    (hdrawn : Drawn n s) {new : α} (hnew : Drawn n new) (h : Entered L new) :
    ∃ L', Agrees n L L' ∧ Entered L' (slot.put new s n).1.2 := by
  simp only [put, bind_edit_apply]
  cases ht : slot.part? s.scheme with
  | none =>
    rw [slot.onPart_none _ ht]
    exact ⟨L, .refl, hs⟩
  | some t =>
    obtain ⟨f, hf, -⟩ := hs
    have hmade := Tracked.made hnew
    have hle := Nat.le_of_lt hmade.lt
    obtain ⟨L₁, hagree, hrecalls⟩ := Tracked.recalls_make h hnew
    obtain ⟨w, g, -, -, hsplit⟩ := hslot n L L₁ _ f t hf hdrawn.1 hagree ht
    rw [slot.onPart_some _ ht]
    exact entered_of_recalls hle (slot.drawn_withPart hdrawn.1 hle hmade.drawn)
      ⟨L₁, hagree, hsplit _ _ hrecalls⟩

theorem Slot.entered_edit (hslot : slot.Splits) (hs : Entered L s) (hdrawn : Drawn n s)
    {e : Edit α Bool}
    (h : ∀ a, Entered L a → Drawn n a → ∃ L', Agrees n L L' ∧ Entered L' (e a n).1.2) :
    ∃ L', Agrees n L L' ∧ Entered L' (slot.onPart (Tracked.edit e) s n).1.2 := by
  cases ht : slot.part? s.scheme with
  | none =>
    rw [slot.onPart_none _ ht]
    exact ⟨L, .refl, hs⟩
  | some t =>
    obtain ⟨f, hf, hsays⟩ := hs
    have hold := slot.drawn_part hdrawn.1 ht
    obtain ⟨w, -, hw, -, -⟩ := hslot n L L _ f t hf hdrawn.1 .refl ht
    obtain ⟨L', hagree, ha⟩ := h t.part hw.1 hold.1
    obtain ⟨w, g, hw, rfl, hsplit⟩ := hslot n L L' _ f t hf hdrawn.1 hagree ht
    rw [slot.onPart_some _ ht]
    exact ⟨L', hagree, g w, hsplit _ w (Tracked.recalls_edit hw hold hagree ha),
      hsays.agree hdrawn.2 hagree⟩

end Slot

theorem Change.entered {c : Change} {s : LiveSignature} (hs : Entered L s) (hdrawn : Drawn n s)
    (h : c.Uses (.entered n L)) : ∃ L', Agrees n L L' ∧ Entered L' (c.run s n).1.2 := by
  cases c with
  | setBytes bytes =>
    obtain ⟨f, hf, -⟩ := hs
    exact entered_of_recalls (Nat.le_refl n) hdrawn.1 ⟨L, .refl, hf⟩
  | setInfo info typeCode =>
    obtain ⟨bytes, scheme, count⟩ := s
    cases scheme with
    | generic => exact entered_of_recalls (Nat.le_refl n) trivial ⟨L, .refl, rfl⟩
    | digestSha256 | hmacWithSha256 | sha256WithRsa | sha256WithEcdsa => exact ⟨L, .refl, hs⟩
  | setKeyLocator k => exact Slot.entered_put keyLocatorSlot_splits hs hdrawn h.1 h.2
  | setValidity period => exact Slot.entered_put validitySlot_splits hs hdrawn h.1 h.2
  | keyLocator c =>
    exact Slot.entered_edit keyLocatorSlot_splits hs hdrawn fun k hk hold =>
      LiveKeyLocator.Change.entered hk hold h
  | validity c =>
    exact Slot.entered_edit validitySlot_splits hs hdrawn fun period _ _ =>
      Stamped.Change.entered (s := period) h
  | assign s' => exact ⟨L, .refl, h.2⟩

end LiveSignature

end NamedData
