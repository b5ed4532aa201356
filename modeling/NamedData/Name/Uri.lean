import NamedData.Name.Basic
import NamedData.Name.Escape
import NamedData.Text.Blank
import NamedData.Text.Numeral
import NamedData.Text.Quoted
import NamedData.Text.Segments

/-!
# Names as text

A name is shown as a path with one segment a component. A segment is the escaped value, after the
type's code and an equals sign unless the type is generic; digests are shown in hexadecimal behind a
word of their own. `Name.ofUri` reads paths back and also takes a scheme, an authority and blanks in
front of them; segments that are empty, `.` or `..` are left out.
-/

namespace NamedData

/-- Why a text is no name or no component. -/
inductive NameError where
  /-- A percent sign is not followed by two digits. -/
  | invalidEscape (text : List Char)
  /-- A digest is not hexadecimal. -/
  | invalidDigest (text : List Char)
  /-- A digest does not have 32 bytes. -/
  | invalidDigestLength (length : Nat)
  /-- The text stands for no component. -/
  | illegalComponent (text : List Char)
  /-- The type's code does not fit 64 bits. -/
  | invalidType (text : List Char)
  deriving DecidableEq, Repr

/-- The name of the kind of error, by which programs tell errors apart. -/
def NameError.kind : NameError → String
  | invalidEscape _ => "InvalidEscape"
  | invalidDigest _ => "InvalidDigest"
  | invalidDigestLength _ => "InvalidDigestLength"
  | illegalComponent _ => "IllegalComponent"
  | invalidType _ => "InvalidType"

/-- The error in words. -/
def NameError.message : NameError → String
  | invalidEscape text => "invalid percent-escape in " ++ String.ofList (Text.Quoted.text text)
  | invalidDigest text => "invalid hex digest " ++ String.ofList (Text.Quoted.text text)
  | invalidDigestLength length => s!"SHA-256 digest must be 32 bytes, got {length}"
  | illegalComponent text =>
    String.ofList (Text.Quoted.text text) ++ " is not a name component"
  | invalidType text => "invalid component type in " ++ String.ofList (Text.Quoted.text text)

namespace Component

/-- The word in front of an implicit digest. -/
def implicitDigestWord : List Char := "sha256digest=".toList

/-- The word in front of a digest of parameters. -/
def parametersDigestWord : List Char := "params-sha256=".toList

/-- The segment that shows a component. -/
def segment (c : Component) : List Char :=
  match c.type with
  | .implicitSha256Digest => implicitDigestWord ++ Text.Hex.encode c.value
  | .parametersSha256Digest => parametersDigestWord ++ Text.Hex.encode c.value
  | .generic => Name.escape c.value
  | .other code => Text.Numeral.render code.toNat ++ '=' :: Name.escape c.value

/-- The text of a component. -/
def toUri (c : Component) : String :=
  String.ofList c.segment

/-- A digest component of 32 bytes. -/
def ofDigest (type : ComponentType) (digest : Bytes) : Except NameError Component :=
  if digest.length = digestLength then .ok ⟨type, digest⟩
  else .error (.invalidDigestLength digest.length)

/-- A digest component from hexadecimal text. -/
def ofHexDigest (type : ComponentType) (text : List Char) : Except NameError Component :=
  match Text.Hex.decode (Text.Utf8.encode text) with
  | .ok digest => ofDigest type digest
  | .error _ => .error (.invalidDigest text)

/-- The type and the escaped value that a segment without a digest word shows. -/
def splitType (text : List Char) : Except NameError (ComponentType × List Char) :=
  match Text.splitOnce '=' text with
  | some (code, rest) =>
    if code ≠ [] ∧ code.all Text.Numeral.isDigit then
      match Text.Numeral.read UInt64.size code with
      | .ok n => .ok (.ofCode (UInt64.ofNat n), rest)
      | .error _ => .error (.invalidType text)
    else .ok (.generic, text)
  | none => .ok (.generic, text)

/-- The component that a segment shows, none if the segment stands for no component. -/
def ofSegment (text : List Char) : Except NameError (Option Component) :=
  match Text.stripStart implicitDigestWord text with
  | some digest => some <$> ofHexDigest .implicitSha256Digest digest
  | none =>
    match Text.stripStart parametersDigestWord text with
    | some digest => some <$> ofHexDigest .parametersSha256Digest digest
    | none => do
      let (type, escaped) ← splitType text
      match Name.unescape escaped with
      | .malformed => .error (.invalidEscape escaped)
      | .noValue => .ok none
      | .value value => .ok (some ⟨type, value⟩)

/-- The component that a text shows. -/
def ofUri (text : String) : Except NameError Component := do
  match ← ofSegment text.toList with
  | some c => .ok c
  | none => .error (.illegalComponent text.toList)

end Component

namespace Name

/-- The path that shows a name. -/
def path (n : Name) : List Char :=
  if n.components.isEmpty then ['/'] else n.components.flatMap fun c => '/' :: c.segment

/-- The text of a name. -/
def toUri (n : Name) : String :=
  String.ofList n.path

/-- The text after a scheme: a colon counts as the end of one if no slash stands before it. -/
def dropScheme (text : List Char) : List Char :=
  match Text.splitOnce ':' text with
  | some (scheme, rest) => if '/' ∈ scheme then text else Text.trim rest
  | none => text

/-- The text after an authority, or else after a first slash. -/
def dropAuthority : List Char → List Char
  | '/' :: '/' :: rest =>
    match Text.splitOnce '/' rest with
    | some (_, path) => path
    | none => []
  | '/' :: rest => rest
  | text => text

/-- The components of the segments that stand for one. -/
def ofSegments : List (List Char) → Except NameError (List Component)
  | [] => .ok []
  | segment :: rest => do
    match ← Component.ofSegment segment with
    | some c => return c :: (← ofSegments rest)
    | none => ofSegments rest

/-- The name that a text shows. -/
def ofUriText (text : List Char) : Except NameError Name := do
  let path := dropAuthority (dropScheme (Text.trim text))
  return ⟨← if path.isEmpty then .ok [] else ofSegments (Text.segments '/' path)⟩

/-- The name that a text shows. -/
def ofUri (text : String) : Except NameError Name :=
  ofUriText text.toList

end Name

end NamedData
