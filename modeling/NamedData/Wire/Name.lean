import NamedData.Name.Basic
import NamedData.Wire.Reader

/-!
# Names on the wire

A name is an element whose value is one element a component, typed and valued as the component is.
-/

namespace NamedData.Wire

/-- A component as an element. -/
def componentElement (c : Component) : Bytes :=
  element c.type.code c.value

/-- The elements of some components. -/
def componentElements (components : List Component) : Bytes :=
  components.flatMap componentElement

/-- A name as an element. -/
def nameElement (n : Name) : Bytes :=
  element ElementType.name (componentElements n.components)

namespace Reader

/-- Reads a component. -/
def component : Reader Component := do
  let (type, value) ← any
  return ⟨.ofCode type, value⟩

/-- Reads a component and the offset at which it starts. -/
def componentAt : Reader (Nat × Component) := do
  let start ← offset
  return (start, ← component)

/-- Reads a name and the offsets of its value and of its last component; without a component both
are the offset of the value. -/
def nameRange : Reader (Name × Nat × Nat) :=
  nested ElementType.name do
    let start ← offset
    let components ← many componentAt
    return (⟨components.map Prod.snd⟩, start, (components.getLast?.map Prod.fst).getD start)

/-- Reads a name. -/
def name : Reader Name :=
  Prod.fst <$> nameRange

end Reader

end NamedData.Wire
