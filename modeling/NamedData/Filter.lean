import NamedData.Pattern.NamePattern

/-!
# Filters for interests

A filter accepts the names under a given one; it may also ask that all components below that name
together are accepted by a pattern.
-/

namespace NamedData

/-- A condition on names. -/
structure Filter where
  /-- The name that accepted names start with. -/
  root : Name
  /-- What the components after those of `root` have to match. -/
  pattern : Option NamePattern

namespace Filter

/-- The filter for all names under a name. -/
def under (root : Name) : Filter := ⟨root, none⟩

/-- The text of a pattern with a caret in front and a dollar sign behind. -/
def anchored (text : List Char) : List Char :=
  (if text.head? = some '^' then [] else ['^']) ++ text
    ++ (if text.getLast? = some '$' then [] else ['$'])

/-- The filter for the names under a name whose other components match a pattern from end to end. -/
def withPattern (root : Name) (text : List Char) : Except Pattern.PatternError Filter := do
  return ⟨root, some (← NamePattern.read (anchored text))⟩

/-- Whether a name passes the filter. -/
def accepts (filter : Filter) (name : Name) : Bool :=
  filter.root.isPrefixOf name && match filter.pattern with
    | none => true
    | some pattern => pattern.accepts (name.components.drop filter.root.length)

end Filter

end NamedData
