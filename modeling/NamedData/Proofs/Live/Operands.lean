import NamedData.Live.Interest
import NamedData.Proofs.Live.Signature

/-!
# What changes are handed

A change may be handed other objects: a value for a place, a part, a kind of locator with its name.
`Stock` says which objects are at hand, and `Uses` that a change is handed nothing else. Other than
for changes that must be noticed, an object may be put back where it came from.

Whatever it is handed, a change of objects whose counts have been drawn leaves such objects
(`Edited`).
-/

namespace NamedData

open Observed

/-- The objects that are at hand for changes. -/
structure Stock where
  name : LiveName → Prop
  exclude : LiveExclude → Prop
  metaInfo : LiveMetaInfo → Prop
  validity : LiveValidityPeriod → Prop
  keyLocator : LiveKeyLocator → Prop
  signature : LiveSignature → Prop
  /-- Names that are tracked already. -/
  trackedName : Tracked LiveName → Prop

/-- All objects that can be there when the next count is `n`. -/
def Stock.drawn (n : Count) : Stock :=
  ⟨Drawn n, Drawn n, Drawn n, Drawn n, Drawn n, Drawn n, Drawn n⟩

/-- What is at hand in one stock is at hand in another. -/
structure Stock.Le (stock stock' : Stock) : Prop where
  name : ∀ a, stock.name a → stock'.name a
  exclude : ∀ a, stock.exclude a → stock'.exclude a
  metaInfo : ∀ a, stock.metaInfo a → stock'.metaInfo a
  validity : ∀ a, stock.validity a → stock'.validity a
  keyLocator : ∀ a, stock.keyLocator a → stock'.keyLocator a
  signature : ∀ a, stock.signature a → stock'.signature a
  trackedName : ∀ t, stock.trackedName t → stock'.trackedName t

namespace Stamped.Change

variable {β : Type}

/-- What is put in the place is at hand. -/
def Uses (stock : Stamped β → Prop) : Change β → Prop
  | update _ => True
  | assign s => stock s

theorem uses_mono {stock stock' : Stamped β → Prop} {c : Change β} (hle : ∀ a, stock a → stock' a)
    (h : c.Uses stock) : c.Uses stock' := by
  cases c with
  | update f => trivial
  | assign s => exact hle s h

theorem edited {c : Change β} {n : Count} {s : Stamped β} (h : c.Uses (Drawn n)) :
    Edited n s (c.run s n).1.1 (c.run s n).2 (c.run s n).1.2 := by
  cases c with
  | update f => exact .ofDrawn (Nat.le_succ n) (Nat.lt_succ_self n)
  | assign s' => exact .ofDrawn (Nat.le_refl n) h

end Stamped.Change

/-! ## Key locators -/

namespace LiveKeyLocator

/-- The name in a kind of locator is at hand. -/
def Kind.Uses (stock : Stock) : Kind → Prop
  | .name t _ => stock.trackedName t
  | .absent | .key _ | .certificate _ | .digest _ => True

theorem Kind.drawn_of_uses {n : Count} {kind : Kind} (h : kind.Uses (.drawn n)) : kind.Drawn n := by
  cases kind with
  | name t type => exact h
  | absent | key | certificate | digest => trivial

namespace Change

/-- What the change is handed is at hand. -/
def Uses (stock : Stock) : Change → Prop
  | setKind kind => kind.Uses stock
  | setName new _ => stock.name new
  | name c => c.Uses stock.name
  | assign k => stock.keyLocator k

theorem uses_mono {stock stock' : Stock} {c : Change} (hle : stock.Le stock') (h : c.Uses stock) :
    c.Uses stock' := by
  cases c with
  | setKind kind =>
    cases kind with
    | name t type => exact hle.trackedName t h
    | absent | key | certificate | digest => trivial
  | setName new type => exact hle.name new h
  | name c => exact Stamped.Change.uses_mono hle.name h
  | assign k => exact hle.keyLocator k h

theorem edited {c : Change} {n : Count} {k : LiveKeyLocator} (hdrawn : Drawn n k)
    (h : c.Uses (.drawn n)) : Edited n k (c.run k n).1.1 (c.run k n).2 (c.run k n).1.2 := by
  cases c with
  | setKind kind =>
    exact (changed (c := .setKind kind) hdrawn hdrawn.2 (Kind.drawn_of_uses h)).toEdited
  | setName new type => exact (changed (c := .setName new type) hdrawn hdrawn.2 h).toEdited
  | name c =>
    obtain ⟨kind, count⟩ := k
    cases kind with
    | name t type => exact edited_name hdrawn (Stamped.Change.edited h)
    | absent | key | certificate | digest => exact .failed hdrawn
  | assign k' => exact .ofDrawn (Nat.le_refl n) h

end Change

end LiveKeyLocator

/-! ## Signatures -/

namespace LiveSignature

namespace Change

/-- What the change is handed is at hand. -/
def Uses (stock : Stock) : Change → Prop
  | setBytes _ | setInfo _ _ => True
  | setKeyLocator k => stock.keyLocator k
  | setValidity period => stock.validity period
  | keyLocator c => c.Uses stock
  | validity c => c.Uses stock.validity
  | assign s => stock.signature s

theorem uses_mono {stock stock' : Stock} {c : Change} (hle : stock.Le stock') (h : c.Uses stock) :
    c.Uses stock' := by
  cases c with
  | setBytes | setInfo => trivial
  | setKeyLocator k => exact hle.keyLocator k h
  | setValidity period => exact hle.validity period h
  | keyLocator c => exact LiveKeyLocator.Change.uses_mono hle h
  | validity c => exact Stamped.Change.uses_mono hle.validity h
  | assign s => exact hle.signature s h

theorem edited {c : Change} {n : Count} {s : LiveSignature} (hdrawn : Drawn n s)
    (h : c.Uses (.drawn n)) : Edited n s (c.run s n).1.1 (c.run s n).2 (c.run s n).1.2 := by
  cases c with
  | setBytes bytes => exact (changed (c := .setBytes bytes) hdrawn hdrawn.2 h).toEdited
  | setInfo info typeCode =>
    exact (changed (c := .setInfo info typeCode) hdrawn hdrawn.2 h).toEdited
  | setKeyLocator k => exact (keyLocatorSlot.changed_put hdrawn hdrawn.2 h).toEdited
  | setValidity period => exact (validitySlot.changed_put hdrawn hdrawn.2 h).toEdited
  | keyLocator c =>
    exact keyLocatorSlot.edited hdrawn fun t _ hold => LiveKeyLocator.Change.edited hold.1 h
  | validity c =>
    exact validitySlot.edited hdrawn fun t _ _ => Stamped.Change.edited (s := t.part) h
  | assign s' => exact .ofDrawn (Nat.le_refl n) h

end Change

end LiveSignature

end NamedData
