/-!
# Change counts

Every change of an object gives it a count that was never used before, drawn from one ascending
sequence, so that equal counts mean that nothing has changed in between. `Draws` is a computation
that may draw counts, and `Edit σ` one that may also read and change an object of type `σ`.
`Stamped` is a plain value with the count of its last change.
-/

namespace NamedData

/-- A place in the sequence of changes. -/
abbrev Count := Nat

/-- A computation that may draw counts; its state is the next count to be drawn. -/
abbrev Draws := StateM Count

/-- The next count. -/
def draw : Draws Count :=
  modifyGet fun next => (next, next + 1)

/-- A computation that may read and change an object. -/
abbrev Edit (σ : Type) := StateT σ Draws

/-- An object with parts whose changes it learns of when it is asked for its count. -/
class ChangeCounted (α : Type) where
  /-- Takes up the changes of the parts. -/
  settle : Edit α Unit
  /-- The count of the last change that was taken up. -/
  count : α → Count

/-- The count of the last change of an object and all its parts. -/
def changeCount {α : Type} [ChangeCounted α] : Edit α Count := do
  ChangeCounted.settle
  return ChangeCounted.count (← get)

/-- A value and the count of its last change. -/
structure Stamped (α : Type) where
  value : α
  count : Count
  deriving DecidableEq, Repr

namespace Stamped

variable {α : Type}

/-- A value that is new. -/
def make (value : α) : Draws (Stamped α) :=
  return ⟨value, ← draw⟩

/-- Changes the value. -/
def update (f : α → α) : Edit (Stamped α) Unit := do
  let s ← get
  set (Stamped.mk (f s.value) (← draw))

instance : ChangeCounted (Stamped α) where
  settle := pure ()
  count s := s.count

end Stamped

end NamedData
