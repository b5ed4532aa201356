import NamedData.Change.Tracked

/-!
# Places in objects

`Place σ α` is a place in objects of type `σ` that holds one of type `α`. An edit of what is in the
place is an edit of the whole object. Objects that are `Checkable` hold tracked parts, which are
looked at all at once; parts may lie side by side.
-/

namespace NamedData

/-- A place in an object. -/
structure Place (σ α : Type) where
  /-- What is in the place. -/
  view : σ → α
  /-- Puts something else in the place. -/
  put : α → σ → σ

namespace Place

variable {σ α β γ : Type}

/-- Edits what is in the place. -/
def on {ρ : Type} (place : Place σ α) (e : Edit α ρ) : Edit σ ρ := do
  let s ← get
  let (result, a) ← (e.run (place.view s) : Draws _)
  set (place.put a s)
  return result

/-- All of the object. -/
def here : Place α α where
  view a := a
  put a _ := a

/-- A place in the first of two objects that lie side by side. -/
def left (place : Place α γ) : Place (α × β) γ where
  view p := place.view p.1
  put c p := (place.put c p.1, p.2)

/-- A place in the second of two objects that lie side by side. -/
def right (place : Place β γ) : Place (α × β) γ where
  view p := place.view p.2
  put c p := (p.1, place.put c p.2)

end Place

/-- Objects that hold tracked parts and nothing else. -/
class Checkable (τ : Type) where
  /-- Looks at all parts and tells whether any has changed since it was last looked at. -/
  check : Edit τ Bool

instance {α : Type} [ChangeCounted α] : Checkable (Tracked α) where
  check := Tracked.check

instance {α β : Type} [Checkable α] [Checkable β] : Checkable (α × β) where
  check := do
    let changed ← Place.here.left.on Checkable.check
    let changed' ← Place.here.right.on Checkable.check
    return changed || changed'

end NamedData
