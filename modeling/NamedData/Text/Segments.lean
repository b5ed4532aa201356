/-!
# Splitting texts

`segments` cuts a text at every occurrence of a separator and `splitOnce` at the first.
-/

namespace NamedData.Text

/-- The pieces between the occurrences of `separator`; a text without one is a single piece. -/
def segments (separator : Char) : List Char → List (List Char)
  | [] => [[]]
  | c :: rest =>
    if c = separator then [] :: segments separator rest
    else
      match segments separator rest with
      | [] => [[c]]
      | first :: others => (c :: first) :: others

/-- The parts before and after the first occurrence of `separator`, if there is one. -/
def splitOnce (separator : Char) : List Char → Option (List Char × List Char)
  | [] => none
  | c :: rest =>
    if c = separator then some ([], rest)
    else (splitOnce separator rest).map fun (before, after) => (c :: before, after)

/-- The rest of a text that starts with `start`. -/
def stripStart (start : List Char) (text : List Char) : Option (List Char) :=
  if start.isPrefixOf text then some (text.drop start.length) else none

end NamedData.Text
