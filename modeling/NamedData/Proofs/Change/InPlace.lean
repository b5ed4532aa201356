import NamedData.Proofs.Change.Observed

/-!
# Changes of a part in place

A change in place either fails and leaves the part as it is, or leaves another object there
(`Edited`). The owner of a part remembers the count that the part had when it was last looked at. A
change is `Noticeable` if the part will answer another count from then on, and `Changed` is the
contract of changes that are so if they succeed: a tracker is then unsettled (`Tracked.unsettled`).

Another object may also be put in the place of a part: any one that exists. The one object that its
owner does not notice there is a copy of the part as it was last looked at.
-/

namespace NamedData

open Observed

variable {α V : Type} [ChangeCounted α] [Observed α V]

/-- An owner that remembers the count `seen` notices this object when it looks at it. -/
def Noticeable (seen : Count) (a : α) : Prop :=
  Settled a → ChangeCounted.count a ≠ seen

/-- An object with a count drawn just now is noticeable. -/
theorem noticeable_of_le {seen n : Count} {a : α} (hseen : seen < n)
    (hcount : n ≤ ChangeCounted.count a) : Noticeable seen a := by
  intro _ heq
  rw [heq] at hcount
  exact Nat.lt_irrefl _ (Nat.lt_of_lt_of_le hseen hcount)

/-- An object with a change to take up is noticeable. -/
theorem noticeable_of_not_settled {seen : Count} {a : α} (h : ¬ Settled a) : Noticeable seen a :=
  fun hs => absurd hs h

/-- Object `a'` at count `n'` is what a change of `a` at `n` leaves behind; `done` tells whether the
change could be made. -/
structure Edited (n : Count) (a : α) (done : Bool) (n' : Count) (a' : α) : Prop where
  le : n ≤ n'
  drawn : Drawn n' a'
  kept : done = false → a' = a

/-- The change is noticeable for an owner that remembers the count `seen`. -/
structure Changed (seen n : Count) (a : α) (done : Bool) (n' : Count) (a' : α) : Prop
    extends Edited n a done n' a' where
  noticeable : done = true → Noticeable seen a'

section Changed

variable {seen n n' : Count} {a a' : α}

omit [ChangeCounted α] in
theorem Edited.ofDrawn (hle : n ≤ n') (hdrawn : Drawn n' a') : Edited n a true n' a' :=
  ⟨hle, hdrawn, fun hdone => nomatch hdone⟩

omit [ChangeCounted α] in
theorem Edited.failed (hdrawn : Drawn n a) : Edited n a false n a :=
  ⟨Nat.le_refl n, hdrawn, fun _ => rfl⟩

theorem Changed.ofNoticeable (hle : n ≤ n') (hdrawn : Drawn n' a') (h : Noticeable seen a') :
    Changed seen n a true n' a' :=
  ⟨.ofDrawn hle hdrawn, fun _ => h⟩

theorem Changed.failed (hdrawn : Drawn n a) : Changed seen n a false n a :=
  ⟨.failed hdrawn, fun hdone => nomatch hdone⟩

end Changed

namespace Tracked

variable {t : Tracked α} {n n' : Count} {a' : α} {done : Bool}

/-- A change of the part is one of the tracker. -/
theorem edited (hdrawn : Drawn n t) (h : Edited n t.part done n' a') :
    Edited n t done n' { t with part := a' } where
  le := h.le
  drawn := ⟨h.drawn, (drawn_mono h.le hdrawn).2⟩
  kept hdone := by rw [h.kept hdone]

/-- A noticeable change of the part unsettles the tracker. -/
theorem unsettled (h : Changed t.seen n t.part done n' a') (hdone : done = true) :
    ¬ Settled { t with part := a' } := by
  rintro ⟨hsettled, hcount⟩
  exact h.noticeable hdone hsettled hcount

end Tracked

/-! ## Parts that lie side by side -/

/-- A place in parts that holds one of them: what holds of the parts holds of the one there, and of
the others whatever is put there. -/
structure Place.Lawful {τ α V W : Type} [Observed τ W] [Observed α V] (place : Place τ α) : Prop where
  drawn_view {n : Count} {p : τ} : Drawn n p → Drawn n (place.view p)
  drawn_put {n n' : Count} {p : τ} {a : α} :
    Drawn n p → n ≤ n' → Drawn n' a → Drawn n' (place.put a p)
  settled_of_put {p : τ} {a : α} : Settled (place.put a p) → Settled a
  put_view (p : τ) : place.put (place.view p) p = p

namespace Place.Lawful

variable {α β γ V W U : Type} [Observed α V] [Observed β W] [Observed γ U]

theorem here : (Place.here : Place α α).Lawful where
  drawn_view h := h
  drawn_put _ _ h := h
  settled_of_put h := h
  put_view _ := rfl

theorem left {place : Place α γ} (h : place.Lawful) : (place.left : Place (α × β) γ).Lawful where
  drawn_view hp := h.drawn_view hp.1
  drawn_put hp hle hc := ⟨h.drawn_put hp.1 hle hc, drawn_mono hle hp.2⟩
  settled_of_put hp := h.settled_of_put hp.1
  put_view p := Prod.ext (h.put_view p.1) rfl

theorem right {place : Place β γ} (h : place.Lawful) : (place.right : Place (α × β) γ).Lawful where
  drawn_view hp := h.drawn_view hp.2
  drawn_put hp hle hc := ⟨drawn_mono hle hp.1, h.drawn_put hp.2 hle hc⟩
  settled_of_put hp := h.settled_of_put hp.2
  put_view p := Prod.ext rfl (h.put_view p.2)

end Place.Lawful

/-! ## Values with a count of their own -/

namespace Stamped

variable {β : Type}

/-- A change of a value in place. -/
inductive Change (β : Type) where
  /-- One of the value's own operations. -/
  | update (f : β → β)
  /-- Another value takes its place. -/
  | assign (s : Stamped β)

namespace Change

/-- Makes the change; it never fails. -/
def run : Change β → Edit (Stamped β) Bool
  | update f => do
    Stamped.update f
    return true
  | assign s => do
    set s
    return true

/-- What is put in the place exists, and is no copy of what the owner remembers. -/
def Allowed (n seen : Count) : Change β → Prop
  | update _ => True
  | assign s => Drawn n s ∧ Noticeable seen s

theorem changed {c : Change β} {n seen : Count} {s : Stamped β} (hseen : seen < n)
    (hallowed : c.Allowed n seen) :
    Changed seen n s (c.run s n).1.1 (c.run s n).2 (c.run s n).1.2 := by
  cases c with
  | update f =>
    exact .ofNoticeable (Nat.le_succ n) (Nat.lt_succ_self n)
      (noticeable_of_le hseen (Nat.le_refl n))
  | assign s' => exact .ofNoticeable (Nat.le_refl n) hallowed.1 hallowed.2

end Change

end Stamped

end NamedData
