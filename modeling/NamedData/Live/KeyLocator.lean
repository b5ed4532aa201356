import NamedData.Change.Tracked
import NamedData.Packet.KeyLocator

/-!
# Live key locators

A key locator that counts its changes, those of its name included. `toKeyLocator` is the value it
has at the moment.
-/

namespace NamedData

/-- A name that counts its changes. -/
abbrev LiveName := Stamped Name

/-- The kinds of key locators, with a name that counts its changes. -/
inductive LiveKeyLocator.Kind where
  | absent
  | key (bytes : Bytes)
  | certificate (bytes : Bytes)
  | digest (bytes : Bytes)
  | name (name : Tracked LiveName) (type : KeyNameType)
  deriving DecidableEq, Repr

/-- A key locator that counts its changes. -/
structure LiveKeyLocator where
  kind : LiveKeyLocator.Kind
  count : Count
  deriving DecidableEq, Repr

namespace LiveKeyLocator

/-- The value that a kind has at the moment. -/
def Kind.toKeyLocator : Kind → KeyLocator
  | absent => .absent
  | key bytes => .key bytes
  | certificate bytes => .certificate bytes
  | digest bytes => .digest bytes
  | name n type => .name n.part.value type

/-- A kind of a given value. -/
def Kind.make : KeyLocator → Draws Kind
  | .absent => return absent
  | .key bytes => return key bytes
  | .certificate bytes => return certificate bytes
  | .digest bytes => return digest bytes
  | .name n type => return name (← Tracked.make (← Stamped.make n)) type

/-- The value of a key locator at the moment. -/
def toKeyLocator (k : LiveKeyLocator) : KeyLocator :=
  k.kind.toKeyLocator

/-- A key locator that is new. -/
def make (k : KeyLocator) : Draws LiveKeyLocator := do
  let kind ← Kind.make k
  return ⟨kind, ← draw⟩

/-- Changes the kind. -/
def setKind (kind : Kind) : Edit LiveKeyLocator Unit := do
  set (LiveKeyLocator.mk kind (← draw))

/-- Makes it the locator of a given value. -/
def assign (k : KeyLocator) : Edit LiveKeyLocator Unit := do
  let kind ← (Kind.make k : Draws _)
  setKind kind

/-- Makes it the locator of a name. -/
def setName (n : LiveName) (type : KeyNameType) : Edit LiveKeyLocator Unit := do
  let name ← (Tracked.make n : Draws _)
  setKind (.name name type)

/-- Changes the name, if there is one. -/
def editName {ρ : Type} (e : Edit LiveName ρ) : Edit LiveKeyLocator (Option ρ) := do
  let k ← get
  match k.kind with
  | .name n type =>
    let (result, n) ← ((Tracked.edit e).run n : Draws _)
    set { k with kind := .name n type }
    return some result
  | _ => return none

instance : ChangeCounted LiveKeyLocator where
  settle := do
    let k ← get
    match k.kind with
    | .name n type =>
      let (changed, n) ← (Tracked.check.run n : Draws _)
      let count ← if changed then (draw : Draws _) else pure k.count
      set (LiveKeyLocator.mk (.name n type) count)
    | _ => pure ()
  count k := k.count

end LiveKeyLocator

end NamedData
