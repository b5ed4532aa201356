import NamedData.Name.Component
import NamedData.Name.Convention

/-!
# Names

A name is a list of components. Names are in order component by component, a shorter name before the
longer ones that start with it. Positions may be counted from the end: position -1 is the last
component.
-/

namespace NamedData

/-- A hierarchical name. -/
structure Name where
  components : List Component
  deriving DecidableEq, Repr

namespace Name

/-- The name without components. -/
def empty : Name := ⟨[]⟩

instance : Inhabited Name := ⟨empty⟩

/-- The number of components. -/
def length (n : Name) : Nat :=
  n.components.length

instance : Ord Name where
  compare a b := compare a.components b.components

/-- Whether a name starts with the components of another. -/
def isPrefixOf (n other : Name) : Bool :=
  n.components.isPrefixOf other.components

/-- The name with one component more. -/
def push (n : Name) (c : Component) : Name :=
  ⟨n.components ++ [c]⟩

/-- The name followed by the components of another. -/
def append (n other : Name) : Name :=
  ⟨n.components ++ other.components⟩

/-- The position in a list of `length` that an index means, negative ones counted from the end;
none if it lies before the start. -/
def resolve? (length : Nat) (index : Int) : Option Nat :=
  if 0 ≤ index then some index.toNat
  else if index.natAbs ≤ length then some (length - index.natAbs) else none

/-- The component at an index. -/
def get? (n : Name) (index : Int) : Option Component :=
  (resolve? n.length index).bind (n.components[·]?)

/-- At most `count` components from an index on; an index before the start means the start. -/
def sub (n : Name) (start : Int) (count : Nat) : Name :=
  ⟨(n.components.drop ((resolve? n.length start).getD 0)).take count⟩

/-- The first `count` components, or all but the last `-count`. -/
def take (n : Name) (count : Int) : Name :=
  n.sub 0 (if 0 ≤ count then count.toNat else n.length - count.natAbs)

/-- The name with the types that have a name carrying that name. -/
def normalize (n : Name) : Name :=
  ⟨n.components.map Component.normalize⟩

/-- The name of a packet under the digest of its bytes. -/
def withDigest (n : Name) (digest : Bytes) : Name :=
  n.push ⟨.implicitSha256Digest, digest⟩

end Name

end NamedData
