import NamedData.Text.Hex
import NamedData.Text.Numeral

/-!
# JSON reports

The values that reports are made of and their two written forms: `compact` on one line without
spaces, and `pretty` with one item a line, each level indented by two more spaces. `record` puts the
fields of an object into the order of their names, so one report has one written form.
-/

namespace NamedData.Text

/-- A value of a report. -/
inductive Json where
  | null
  | bool (value : Bool)
  | number (value : Nat)
  | string (value : List Char)
  | array (items : List Json)
  | object (fields : List (List Char × Json))

namespace Json

/-- The text of a string literal. -/
def ofString (s : String) : Json :=
  .string s.toList

/-- The value, or null if there is none. -/
def ofOption {α : Type} (render : α → Json) : Option α → Json
  | none => .null
  | some a => render a

/-- An object whose fields are in the order of their names. -/
def record (fields : List (String × Json)) : Json :=
  .object ((fields.mergeSort fun a b => a.1 ≤ b.1).map fun (name, value) => (name.toList, value))

/-- How a character is written inside a string. -/
def escape (c : Char) : List Char :=
  if c = '"' ∨ c = '\\' then ['\\', c]
  else if c = '\x08' then ['\\', 'b']
  else if c = '\x0c' then ['\\', 'f']
  else if c = '\n' then ['\\', 'n']
  else if c = '\r' then ['\\', 'r']
  else if c = '\t' then ['\\', 't']
  else if c < ' ' then
    ['\\', 'u', '0', '0', Hex.lowerDigit (c.toNat / 16), Hex.lowerDigit (c.toNat % 16)]
  else [c]

/-- A string between quotation marks. -/
def quote (text : List Char) : List Char :=
  '"' :: text.flatMap escape ++ ['"']

/-- A value that holds no other values. -/
def scalar : Json → List Char
  | .bool true => ['t', 'r', 'u', 'e']
  | .bool false => ['f', 'a', 'l', 's', 'e']
  | .number n => Numeral.render n
  | .string text => quote text
  | _ => ['n', 'u', 'l', 'l']

mutual

/-- A value on one line without spaces. -/
def compact : Json → List Char
  | .array items => '[' :: compactItems items ++ [']']
  | .object fields => '\x7b' :: compactFields fields ++ ['\x7d']
  | leaf => scalar leaf

/-- The items of an array, separated by commas. -/
def compactItems : List Json → List Char
  | [] => []
  | [item] => compact item
  | item :: rest => compact item ++ ',' :: compactItems rest

/-- The fields of an object, separated by commas. -/
def compactFields : List (List Char × Json) → List Char
  | [] => []
  | [(name, value)] => quote name ++ ':' :: compact value
  | (name, value) :: rest => quote name ++ ':' :: compact value ++ ',' :: compactFields rest

end

/-- The start of a line at the given depth. -/
def newLine (depth : Nat) : List Char :=
  '\n' :: List.replicate (2 * depth) ' '

mutual

/-- A value with one item a line, inside `depth` other values. -/
def pretty (depth : Nat) : Json → List Char
  | .array [] => ['[', ']']
  | .array items => '[' :: prettyItems (depth + 1) items ++ newLine depth ++ [']']
  | .object [] => ['\x7b', '\x7d']
  | .object fields => '\x7b' :: prettyFields (depth + 1) fields ++ newLine depth ++ ['\x7d']
  | leaf => scalar leaf

/-- The items of an array, each on a line of its own. -/
def prettyItems (depth : Nat) : List Json → List Char
  | [] => []
  | [item] => newLine depth ++ pretty depth item
  | item :: rest => newLine depth ++ pretty depth item ++ ',' :: prettyItems depth rest

/-- The fields of an object, each on a line of its own. -/
def prettyFields (depth : Nat) : List (List Char × Json) → List Char
  | [] => []
  | [(name, value)] => newLine depth ++ quote name ++ [':', ' '] ++ pretty depth value
  | (name, value) :: rest =>
    newLine depth ++ quote name ++ [':', ' '] ++ pretty depth value
      ++ ',' :: prettyFields depth rest

end

end Json

end NamedData.Text
