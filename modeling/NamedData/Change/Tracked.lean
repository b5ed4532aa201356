import NamedData.Change.Count

/-!
# Tracked parts

An object that owns a part hands it out for changes without watching it. `Tracked` keeps the part
together with the count that it had when it was last looked at: a part with another count has
changed since, whatever was done to it.
-/

namespace NamedData

/-- A part of an object. -/
structure Tracked (α : Type) where
  part : α
  /-- The count of the part when it was last looked at. -/
  seen : Count
  /-- The count of the last change that was noticed. -/
  count : Count
  deriving DecidableEq, Repr

namespace Tracked

variable {α : Type} [ChangeCounted α]

/-- A part that is new in its object. -/
def make (part : α) : Draws (Tracked α) := do
  let (seen, part) ← changeCount.run part
  return ⟨part, seen, ← draw⟩

/-- Puts another part in the place. -/
def replace (part : α) : Edit (Tracked α) Unit := do
  let (seen, part) ← (changeCount.run part : Draws _)
  set (Tracked.mk part seen (← draw))

/-- Changes the part without looking at it. -/
def edit {ρ : Type} (e : Edit α ρ) : Edit (Tracked α) ρ := do
  let t ← get
  let (result, part) ← (e.run t.part : Draws _)
  set { t with part }
  return result

/-- Looks at the part and tells whether it has changed since it was last looked at. -/
def check : Edit (Tracked α) Bool := do
  let t ← get
  let (count, part) ← (changeCount.run t.part : Draws _)
  if count = t.seen then
    set { t with part }
    return false
  else
    set (Tracked.mk part count (← draw))
    return true

instance : ChangeCounted (Tracked α) where
  settle := discard check
  count t := t.count

end Tracked

end NamedData
