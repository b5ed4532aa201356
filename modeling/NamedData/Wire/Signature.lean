import NamedData.Packet.Signature
import NamedData.Wire.KeyLocator

/-!
# Signatures on the wire

A signature is two elements: the description of the scheme, with key locator and validity period
where the scheme has them, and the bytes. The description of an unknown scheme is kept and written
as it is.
-/

namespace NamedData.Wire

/-- An instant as the value of an element. -/
def timeValue (t : Time.Instant) : Bytes :=
  Text.Utf8.encode t.write

/-- A validity period as an element, nothing for an unlimited one. -/
def validityElement? (period : ValidityPeriod) : Bytes :=
  match period.bounds with
  | none => []
  | some (first, last) =>
    element ElementType.validityPeriod
      (element ElementType.notBefore (timeValue first)
        ++ element ElementType.notAfter (timeValue last))

/-- The description of a named scheme as an element. -/
def schemeElement (type : SignatureType) (locator validity : Bytes) : Bytes :=
  element ElementType.signatureInfo
    (integerElement ElementType.signatureType type.code ++ locator ++ validity)

/-- The description of a signature's scheme. -/
def encodeSignatureInfo : Signature → Except EncodingError Bytes
  | .digestSha256 _ => .ok (schemeElement .digestSha256 [] [])
  | .hmacWithSha256 _ k => do
    return schemeElement .hmacWithSha256 (← keyLocatorElement? ElementType.keyLocator k) []
  | .sha256WithRsa _ k period => do
    return schemeElement .sha256WithRsa (← keyLocatorElement? ElementType.keyLocator k)
      (validityElement? period)
  | .sha256WithEcdsa _ k period => do
    return schemeElement .sha256WithEcdsa (← keyLocatorElement? ElementType.keyLocator k)
      (validityElement? period)
  | .generic _ info _ => if info.isEmpty then .error .missingSignatureInfo else .ok info

/-- The text of a value. -/
def decodeText (field : TextField) (value : Bytes) : Except DecodingError (List Char) :=
  match Text.Utf8.decode value with
  | .ok text => .ok text
  | .error fault => .error (.invalidValue (.notUtf8 field fault))

/-- The instant of a value. -/
def decodeTime (value : Bytes) : Except DecodingError Time.Instant := do
  let text ← decodeText .validityTime value
  match Time.Instant.parse text with
  | .ok t => .ok t
  | .error fault => .error (.invalidValue (.notATime text fault))

namespace Reader

/-- Reads an instant. -/
def time (type : UInt64) : Reader Time.Instant := do
  let value ← blob type
  lift (decodeTime value)

/-- Reads a key locator if one is next; otherwise it is absent. -/
def keyLocator : Reader KeyLocator := do
  let locator ← optionalNested ElementType.keyLocator keyLocatorValue
  return locator.getD .absent

/-- Reads a validity period if one is next; otherwise it is unlimited. -/
def validity : Reader ValidityPeriod := do
  let bounds ← optionalNested ElementType.validityPeriod do
    let first ← time ElementType.notBefore
    let last ← time ElementType.notAfter
    return (first, last)
  return ⟨bounds⟩

/-- Reads the description of a scheme, which `info` holds, as a signature without bytes. What
follows the number of an unknown scheme is not looked at. -/
def scheme (info : Bytes) : Reader Signature := do
  let valueEnd ← enter ElementType.signatureInfo
  within valueEnd do
    let code ← integer ElementType.signatureType
    match SignatureType.ofCode code with
    | .digestSha256 =>
      tail
      return .digestSha256 []
    | .hmacWithSha256 =>
      let k ← keyLocator
      tail
      return .hmacWithSha256 [] k
    | .sha256WithRsa =>
      let k ← keyLocator
      let period ← validity
      tail
      return .sha256WithRsa [] k period
    | .sha256WithEcdsa =>
      let k ← keyLocator
      let period ← validity
      tail
      return .sha256WithEcdsa [] k period
    -- The bytes are kept as they came, with all that the input holds after the element.
    | .other code => return .generic [] info (some code)

end Reader

/-- Decodes a signature from its two elements. -/
def decodeSignature (info value : Bytes) : Except DecodingError Signature := do
  let signature ← (Reader.scheme info).value info
  let bytes ← (Reader.blob ElementType.signatureValue).value value
  return signature.withBytes bytes

end NamedData.Wire
