import NamedData.Config.Basic
import NamedData.Text.Hex
import NamedData.Text.Numeral

/-!
# Configurations in JSON

A configuration is a JSON object of the three settings by name, each at most once and a whole number
of 64 bits without sign, fraction or exponent; a setting that is left out has its default. An array
of the settings' values in their order means the same. Any other text is refused, and since no other
values may stand anywhere, they are not read.
-/

namespace NamedData.Config

/-- Whether a character is white space between the tokens of JSON. -/
def isJsonBlank (c : Char) : Bool :=
  c == ' ' || c == '\t' || c == '\n' || c == '\r'

/-- The text after white space. -/
def skipBlank (text : List Char) : List Char :=
  text.dropWhile isJsonBlank

/-- The rest of a text that starts with a character. -/
def expect? (c : Char) : List Char → Option (List Char)
  | d :: rest => if d = c then some rest else none
  | [] => none

/-- The value of four hexadecimal digits. -/
def fourDigits? (a b c d : Char) : Option Nat := do
  let a ← Text.Hex.digit? a
  let b ← Text.Hex.digit? b
  let c ← Text.Hex.digit? c
  let d ← Text.Hex.digit? d
  return ((a * 16 + b) * 16 + c) * 16 + d

/-- The character of an escape of one letter. -/
def escaped? : Char → Option Char
  | '"' => some '"'
  | '\\' => some '\\'
  | '/' => some '/'
  | 'b' => some '\x08'
  | 'f' => some '\x0c'
  | 'n' => some '\n'
  | 'r' => some '\r'
  | 't' => some '\t'
  | _ => none

/-- Reads a string up to its closing quotation mark. Half a character gives a character that no
setting's name has. -/
def stringRest? : List Char → Option (List Char × List Char)
  | [] => none
  | '"' :: rest => some ([], rest)
  | '\\' :: 'u' :: a :: b :: c :: d :: rest => do
    let code ← fourDigits? a b c d
    let (chars, rest) ← stringRest? rest
    return (Char.ofNat code :: chars, rest)
  | '\\' :: c :: rest => do
    let char ← escaped? c
    let (chars, rest) ← stringRest? rest
    return (char :: chars, rest)
  | c :: rest => do
    if c < ' ' then none
    else
      let (chars, rest) ← stringRest? rest
      return (c :: chars, rest)

/-- Reads a string. -/
def string? (text : List Char) : Option (List Char × List Char) := do
  stringRest? (← expect? '"' text)

/-- Reads a whole number of 64 bits: digits without a leading zero, not followed by a fraction or an
exponent. -/
def number? (text : List Char) : Option (UInt64 × List Char) :=
  let digits := text.takeWhile Text.Numeral.isDigit
  let rest := text.dropWhile Text.Numeral.isDigit
  if digits.head? = some '0' ∧ digits ≠ ['0'] then none
  -- A fraction or an exponent makes the number one that no setting takes, even if it is whole.
  else if rest.head? = some '.' ∨ rest.head? = some 'e' ∨ rest.head? = some 'E' then none
  else
    match Text.Numeral.read UInt64.size digits with
    | .ok n => some (UInt64.ofNat n, rest)
    | .error _ => none

/-- The settings of a configuration. -/
inductive Setting where
  | maxPacketSize
  | nonceLength
  | defaultLifetimeMillis
  deriving DecidableEq, Repr

namespace Setting

/-- The settings in their order. -/
def all : List Setting := [maxPacketSize, nonceLength, defaultLifetimeMillis]

/-- The name of a setting. -/
def name : Setting → String
  | maxPacketSize => "max_packet_size"
  | nonceLength => "nonce_length"
  | defaultLifetimeMillis => "default_interest_lifetime_ms"

/-- The setting with a name. -/
def ofName? (name : List Char) : Option Setting :=
  all.find? fun setting => setting.name.toList == name

/-- The configuration with another value of a setting. -/
def assign (setting : Setting) (value : UInt64) (config : PacketConfig) : PacketConfig :=
  match setting with
  | maxPacketSize => { config with maxPacketSize := value }
  | nonceLength => { config with nonceLength := value }
  | defaultLifetimeMillis => { config with defaultLifetimeMillis := value }

end Setting

/-- Reads one setting by name that is still open. -/
def field? (opened : List Setting) (text : List Char) :
    Option (Setting × UInt64 × List Char) := do
  let (name, rest) ← string? (skipBlank text)
  let setting ← Setting.ofName? name
  if setting ∉ opened then none
  else
    let rest ← expect? ':' (skipBlank rest)
    let (value, rest) ← number? (skipBlank rest)
    return (setting, value, skipBlank rest)

/-- Reads settings by name, at most `count` of them, up to the closing brace. -/
def fields? (count : Nat) (opened : List Setting) (config : PacketConfig) (text : List Char) :
    Option (PacketConfig × List Char) :=
  match count with
  | 0 => none
  | count + 1 => do
    let (setting, value, rest) ← field? opened text
    let config := setting.assign value config
    match rest with
    | '\x7d' :: rest => return (config, rest)
    | ',' :: rest => fields? count (opened.erase setting) config rest
    | _ => none

/-- Reads values of settings in their order up to the closing bracket. -/
def items? (opened : List Setting) (config : PacketConfig) (text : List Char) :
    Option (PacketConfig × List Char) :=
  match opened with
  | [] => none
  | setting :: opened => do
    let (value, rest) ← number? (skipBlank text)
    let config := setting.assign value config
    match skipBlank rest with
    | ']' :: rest => return (config, rest)
    | ',' :: rest => items? opened config rest
    | _ => none

/-- Reads a configuration by name or by order. -/
def config? (text : List Char) : Option (PacketConfig × List Char) :=
  match skipBlank text with
  | '\x7b' :: rest =>
    match skipBlank rest with
    | '\x7d' :: rest => some ({}, rest)
    | rest => fields? Setting.all.length Setting.all {} rest
  | '[' :: rest =>
    match skipBlank rest with
    | ']' :: rest => some ({}, rest)
    | rest => items? Setting.all {} rest
  | _ => none

end NamedData.Config

namespace NamedData.PacketConfig

/-- The configuration that a JSON text describes. -/
def ofJson (text : String) : Except ConfigError PacketConfig :=
  match Config.config? text.toList with
  | some (config, rest) =>
    if Config.skipBlank rest = [] then config.validate else .error .parse
  | none => .error .parse

end NamedData.PacketConfig
