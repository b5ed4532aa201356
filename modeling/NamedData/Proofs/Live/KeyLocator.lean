import NamedData.Live.KeyLocator
import NamedData.Proofs.Change.InPlace

/-!
# Changes of key locators

A key locator keeps the contract of asking for a count, with its name as the only part that can have
changes to take up, and each change of it in place keeps the contract of such changes.
-/

namespace NamedData.LiveKeyLocator

open Observed

/-- Every count in a kind of locator has been drawn. -/
def Kind.Drawn (n : Count) : Kind → Prop
  | .name t _ => Observed.Drawn n t
  | .absent | .key _ | .certificate _ | .digest _ => True

/-- A kind of locator has no change to take up. -/
def Kind.Settled : Kind → Prop
  | .name t _ => Observed.Settled t
  | .absent | .key _ | .certificate _ | .digest _ => True

theorem Kind.drawn_mono {n n' : Count} {kind : Kind} (hle : n ≤ n') (h : kind.Drawn n) :
    kind.Drawn n' := by
  cases kind with
  | name t type => exact Observed.drawn_mono (a := t) hle h
  | absent | key | certificate | digest => trivial

instance : Observed LiveKeyLocator KeyLocator where
  value := toKeyLocator
  Drawn n k := k.kind.Drawn n ∧ k.count < n
  Settled k := k.kind.Settled
  drawn_mono hle h := ⟨Kind.drawn_mono hle h.1, Nat.lt_of_lt_of_le h.2 hle⟩

/-! ## Asking for the count -/

/-- A locator of a name looks at the name, and draws a count if the name has changed. -/
theorem settle_name_apply (t : Tracked LiveName) (type : KeyNameType) (count n : Count) :
    ChangeCounted.settle (⟨.name t type, count⟩ : LiveKeyLocator) n =
      (((), ⟨.name (Tracked.check t n).1.2 type,
          if (Tracked.check t n).1.1 then (Tracked.check t n).2 else count⟩),
        if (Tracked.check t n).1.1 then (Tracked.check t n).2 + 1 else (Tracked.check t n).2) := by
  show (ite ((Tracked.check t n).1.1 = true) _ _ : Edit LiveKeyLocator Unit) _ _ = _
  rw [ite_edit_apply]
  cases (Tracked.check t n).1.1 <;> rfl

instance : LawfulObserved LiveKeyLocator KeyLocator where
  count_le h := Nat.le_of_lt h.2
  looked {n k} hdrawn := by
    obtain ⟨kind, count⟩ := k
    cases kind with
    | name t type =>
      rw [settle_name_apply]
      let make (t : Tracked LiveName) (count : Count) : LiveKeyLocator := ⟨.name t type, count⟩
      refine Looked.ofChecked make ?_ ?_ ?_ ?_ hdrawn (Tracked.check_checked hdrawn.1)
      · exact fun _ _ => Iff.rfl
      · exact fun _ _ _ ht hcount => ⟨ht, hcount⟩
      · exact fun _ _ _ _ hvalue => congrArg (KeyLocator.name · type) hvalue
      · exact fun _ _ => rfl
    | absent | key | certificate | digest => exact .ofSettled hdrawn trivial
  settle_le {n m k} hle hdrawn := by
    obtain ⟨kind, count⟩ := k
    cases kind with
    | name t type =>
      rw [settle_name_apply, settle_name_apply]
      exact draw_le_draw (LawfulCheckable.check_le hle hdrawn.1)
    | absent | key | certificate | digest => exact hle

/-! ## Making -/

theorem made (k : KeyLocator) (n : Count) : Made n k (make k n).2 (make k n).1 := by
  cases k with
  | name v type =>
    have hname := Tracked.made_of_made (Stamped.made v n)
    exact
      { lt := Nat.lt_succ_of_lt hname.lt
        drawn := ⟨Observed.drawn_mono (Nat.le_succ _) hname.drawn, Nat.lt_succ_self _⟩
        settled := hname.settled
        value_eq := congrArg (KeyLocator.name · type) hname.value_eq }
  | absent | key | certificate | digest =>
    exact ⟨Nat.lt_succ_self n, ⟨trivial, Nat.lt_succ_self n⟩, trivial, rfl⟩

/-! ## Changes in place -/

/-- A change of a key locator in place. -/
inductive Change where
  | setKind (kind : Kind)
  | setName (n : LiveName) (type : KeyNameType)
  /-- A change of the name, which fails if there is none. -/
  | name (c : Stamped.Change Name)
  /-- Another locator takes its place. -/
  | assign (k : LiveKeyLocator)

namespace Change

/-- Makes the change and tells whether it could be made. -/
def run : Change → Edit LiveKeyLocator Bool
  | setKind kind => do
    LiveKeyLocator.setKind kind
    return true
  | setName n type => do
    LiveKeyLocator.setName n type
    return true
  | name c => do return (← editName c.run).getD false
  | assign k => do
    set k
    return true

/-- What is handed in exists, and what is put in a place is no copy of what the owner remembers. -/
def Allowed (n seen : Count) (k : LiveKeyLocator) : Change → Prop
  | setKind kind => kind.Drawn n
  | setName new _ => Drawn n new
  | name c => ∀ t type, k.kind = .name t type → c.Allowed n t.seen
  | assign k => Drawn n k ∧ Noticeable seen k

/-- A change of the name is one of the locator, whose own count stays. -/
theorem edited_name {t : Tracked LiveName} {type : KeyNameType} {count n n' : Count} {name : LiveName}
    {done : Bool} (hdrawn : Drawn n (⟨.name t type, count⟩ : LiveKeyLocator))
    (h : Edited n t.part done n' name) :
    Edited n (⟨.name t type, count⟩ : LiveKeyLocator) done n'
      ⟨.name { t with part := name } type, count⟩ where
  le := h.le
  drawn := ⟨(Tracked.edited hdrawn.1 h).drawn, Nat.lt_of_lt_of_le hdrawn.2 h.le⟩
  kept hdone := by rw [h.kept hdone]

theorem changed {c : Change} {n seen : Count} {k : LiveKeyLocator} (hdrawn : Drawn n k)
    (hseen : seen < n) (hallowed : c.Allowed n seen k) :
    Changed seen n k (c.run k n).1.1 (c.run k n).2 (c.run k n).1.2 := by
  cases c with
  | setKind kind =>
    exact .ofNoticeable (Nat.le_succ n) ⟨Kind.drawn_mono (Nat.le_succ n) hallowed, Nat.lt_succ_self n⟩
      (noticeable_of_le hseen (Nat.le_refl n))
  | setName new type =>
    have hmade := Tracked.made (a := new) hallowed
    have hle := Nat.le_of_lt hmade.lt
    exact .ofNoticeable (Nat.le_succ_of_le hle)
      ⟨Observed.drawn_mono (Nat.le_succ _) hmade.drawn, Nat.lt_succ_self _⟩
      (noticeable_of_le hseen hle)
  | name c =>
    obtain ⟨kind, count⟩ := k
    cases kind with
    | name t type =>
      have hpart := Stamped.Change.changed (s := t.part) hdrawn.1.2.1 (hallowed t type rfl)
      exact ⟨edited_name hdrawn hpart.toEdited,
        fun hdone => noticeable_of_not_settled (Tracked.unsettled hpart hdone)⟩
    | absent | key | certificate | digest => exact .failed hdrawn
  | assign k' => exact .ofNoticeable (Nat.le_refl n) hallowed.1 hallowed.2

end Change

end NamedData.LiveKeyLocator
