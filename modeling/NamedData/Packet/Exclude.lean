import NamedData.Name.Uri

/-!
# Excluded components

An exclude lists components that are not wanted, and `any` for the whole range between its
neighbours. Nothing is assumed about the order of the entries. A component is excluded if it is one
of the entries, or lies strictly between the components around a run of `any`s, where a run at
either end of the list has no bound on that side.
-/

namespace NamedData

/-- An entry of an exclude. -/
inductive ExcludeEntry where
  /-- The range between the components around the entry. -/
  | any
  /-- A single component. -/
  | component (c : Component)
  deriving DecidableEq, Repr

/-- A list of unwanted components and ranges. -/
structure Exclude where
  entries : List ExcludeEntry := []
  deriving DecidableEq, Repr

namespace Exclude

/-- The exclude with an entry more. -/
def push (e : Exclude) (entry : ExcludeEntry) : Exclude :=
  ⟨e.entries ++ [entry]⟩

/-- Whether a component lies strictly above a bound, if there is one. -/
def isAbove (lower : Option Component) (c : Component) : Bool :=
  match lower with
  | none => true
  | some bound => bound.lt c

mutual

/-- Whether the entries exclude `c`, outside a run of `any`s; `last` is the component entry just
before them, if that is what stands there. -/
def excludes (c : Component) (last : Option Component) : List ExcludeEntry → Bool
  | [] => false
  | .any :: rest => excludesInRun c last rest
  | .component d :: rest => d == c || excludes c (some d) rest

/-- Whether the entries exclude `c`, inside a run of `any`s that starts above `lower`. -/
def excludesInRun (c : Component) (lower : Option Component) : List ExcludeEntry → Bool
  | [] => isAbove lower c
  | .any :: rest => excludesInRun c lower rest
  | .component d :: rest =>
    -- The component that ends the run is an entry itself.
    (isAbove lower c && c.lt d) || d == c || excludes c (some d) rest

end

/-- Whether a component is excluded. -/
def contains (e : Exclude) (c : Component) : Bool :=
  excludes c none e.entries

/-- The text of an entry. -/
def entryText : ExcludeEntry → List Char
  | .any => ['*']
  | .component c => c.segment

/-- The entries as text, separated by commas. -/
def path (e : Exclude) : List Char :=
  [','].intercalate (e.entries.map entryText)

/-- The text of an exclude. -/
def toUri (e : Exclude) : String :=
  String.ofList e.path

end Exclude

end NamedData
