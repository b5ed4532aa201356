import NamedData.Unicode.Break
import NamedData.Unicode.Script
import NamedData.Unicode.Version

/-!
# Names of sets of characters

The Unicode standard lets names of properties and of their values be written loosely: the case of
letters does not count, nor do blanks, hyphens and underscores, nor `is` at the very start. A name
on its own stands for a property that a character has or lacks, a general category or a script; a
name and a value for the characters whose property of that name has that value.
-/

namespace NamedData.Unicode

/-- The text without `is` in front, in letters of either case, and whether it was there. -/
def dropIs : List Char → Bool × List Char
  | first :: second :: rest =>
    if first.toLower = 'i' ∧ second.toLower = 's' then (true, rest)
    else (false, first :: second :: rest)
  | text => (false, text)

/-- The name as tables have it: in small letters and without separators. Characters beyond ASCII do
not count. The name `isc` keeps its first two letters. -/
def plainName (name : List Char) : String :=
  let (dropped, rest) := dropIs name
  let counts (c : Char) := c.toNat < 0x80 && !(c = ' ' || c = '_' || c = '-')
  let plain := (rest.filter counts).map Char.toLower
  if dropped ∧ plain = ['c'] then "isc" else String.ofList plain

/-- The set that a name on its own stands for. -/
def Charset.named? (name : List Char) : Option Charset :=
  let plain := plainName name
  (Property.named? plain).map Property.members <|> Category.named? plain
    <|> (Script.named? plain).map Script.members

/-- The characters whose property `key` has a value. -/
def Charset.withValue? (key value : List Char) : Option Charset :=
  let value := plainName value
  match plainName key with
  | "gc" | "generalcategory" => Category.named? value
  | "sc" | "script" => (Script.named? value).map Script.members
  | "scx" | "scriptextensions" => (Script.named? value).map Script.extensions
  | "age" => Version.members? value
  | "gcb" | "graphemeclusterbreak" => graphemeBreak? value
  | "wb" | "wordbreak" => wordBreak? value
  | "sb" | "sentencebreak" => sentenceBreak? value
  | _ => none

end NamedData.Unicode
