import NamedData.Bytes

/-!
# Name components

A component is a value with a type. Three types have names and every other is known by its code;
`ofCode` finds the name of a code that has one, but a component may also carry such a code as
`other`, and then differs from the named type although both have one place in the order. Components
are in order of their type codes, then of their values byte by byte.
-/

namespace NamedData

/-- The type of a name component. -/
inductive ComponentType where
  /-- The SHA-256 digest of a whole Data packet. -/
  | implicitSha256Digest
  /-- The SHA-256 digest of parameters. -/
  | parametersSha256Digest
  /-- Plain bytes. -/
  | generic
  /-- Any other type. -/
  | other (code : UInt64)
  deriving DecidableEq, Repr

namespace ComponentType

/-- The type number on the wire. -/
def code : ComponentType → UInt64
  | implicitSha256Digest => 1
  | parametersSha256Digest => 2
  | generic => 8
  | other code => code

/-- The type of a type number. -/
def ofCode (code : UInt64) : ComponentType :=
  if code = 1 then implicitSha256Digest
  else if code = 2 then parametersSha256Digest
  else if code = 8 then generic
  else other code

@[simp] theorem code_ofCode (code : UInt64) : (ofCode code).code = code := by
  unfold ofCode
  split
  · simp_all [ComponentType.code]
  · split
    · simp_all [ComponentType.code]
    · split <;> simp_all [ComponentType.code]

/-- The type with a code that has a name written by that name. -/
def normalize (type : ComponentType) : ComponentType :=
  ofCode type.code

/-- The name of a type. -/
def label : ComponentType → String
  | implicitSha256Digest => "ImplicitSha256Digest"
  | parametersSha256Digest => "ParametersSha256Digest"
  | generic => "Generic"
  | other code => s!"Other({code.toNat})"

instance : Ord ComponentType where
  compare a b := compare a.code b.code

end ComponentType

/-- A typed value inside a name. -/
structure Component where
  type : ComponentType
  value : Bytes
  deriving DecidableEq, Repr

namespace Component

/-- A component of plain bytes. -/
def generic (value : Bytes) : Component :=
  ⟨.generic, value⟩

/-- The length of a SHA-256 digest in bytes. -/
def digestLength : Nat := 32

/-- The component with a type that has a name carrying that name. -/
def normalize (c : Component) : Component :=
  ⟨c.type.normalize, c.value⟩

instance : Ord Component where
  compare a b := (compare a.type b.type).then (compare a.value b.value)

/-- Whether component `a` comes strictly before `b`. -/
def lt (a b : Component) : Bool :=
  compare a b == .lt

end Component

end NamedData
