import NamedData.Packet.MetaInfo
import NamedData.Text.Quoted
import NamedData.Text.Utf8
import NamedData.Time.Instant

/-!
# Why encoding or decoding fails

Each failure is a constructor with the facts it is about, and one function puts it into words.
Offsets count bytes from the start of the input that is being decoded.
-/

namespace NamedData.Wire

/-- What a wire format can be asked to write or read. -/
inductive Subject where
  | name
  | interest
  | data
  | signatureInfo
  | delegationSet
  | networkNack
  | controlParameters
  | controlResponse
  /-- A key locator that holds the key or certificate itself. -/
  | embeddedKey
  deriving DecidableEq, Repr

/-- The name of a subject. -/
def Subject.label : Subject → String
  | name => "Name"
  | interest => "Interest"
  | data => "Data"
  | signatureInfo => "SignatureInfo"
  | delegationSet => "DelegationSet"
  | networkNack => "NetworkNack"
  | controlParameters => "ControlParameters"
  | controlResponse => "ControlResponse"
  | embeddedKey => "KeyLocator with embedded key or certificate"

/-- The fields whose value is text. -/
inductive TextField where
  | uri
  | statusText
  | validityTime
  deriving DecidableEq, Repr

/-- What is wrong with the value of a field. -/
inductive ValueFault where
  /-- A name component does not start with a marker. -/
  | missingMarker (marker : UInt8)
  /-- A child selector is neither of the two. -/
  | unknownChildSelector (code : UInt64)
  /-- A number of 32 bits is larger than that. -/
  | exceeds32Bits (value : UInt64)
  /-- A text is not UTF-8. -/
  | notUtf8 (field : TextField) (fault : Text.Utf8.Fault)
  /-- A text is no time. -/
  | notATime (text : List Char) (fault : Time.TimeFault)
  deriving DecidableEq, Repr

namespace ValueFault

/-- The name of the field. -/
def field : ValueFault → String
  | missingMarker _ => "NameComponent"
  | unknownChildSelector _ => "ChildSelector"
  | exceeds32Bits _ => "selector"
  | notUtf8 .uri _ => "Uri"
  | notUtf8 .statusText _ => "StatusText"
  | notUtf8 .validityTime _ => "ValidityPeriod"
  | notATime _ _ => "ValidityPeriod"

/-- What is wrong, in words. -/
def reason : ValueFault → String
  | missingMarker marker =>
    "component does not start with marker 0x" ++ String.ofList (Text.Hex.encode [marker])
  | unknownChildSelector code => s!"unknown child selector {code.toNat}"
  | exceeds32Bits value => s!"{value.toNat} does not fit 32 bits"
  | notUtf8 _ fault => fault.message
  | notATime text fault => String.ofList (Text.Quoted.text text) ++ ": " ++ fault.message

end ValueFault

/-- Why bytes cannot be decoded. -/
inductive DecodingError where
  /-- The input ends before an element does. -/
  | truncated (offset : Nat)
  /-- An element has another type than the one that must stand there. -/
  | unexpectedType (expected actual : UInt64) (offset : Nat)
  /-- An element ends after the element around it. -/
  | overrun (offset parentEnd : Nat)
  /-- An element that may not be skipped has no meaning here. -/
  | unrecognizedCriticalType (type : UInt64)
  /-- A number has an impossible length. -/
  | invalidIntegerLength (length : Nat)
  /-- The input is longer than packets may be. -/
  | packetTooLarge (size max : Nat)
  /-- A packet that should be a link has another kind of content. -/
  | notALink (contentType : ContentType)
  /-- A field has an impossible value. -/
  | invalidValue (fault : ValueFault)
  /-- The wire format does not read this. -/
  | unsupported (subject : Subject)
  deriving DecidableEq, Repr

/-- The name of the kind of error, by which programs tell errors apart. -/
def DecodingError.kind : DecodingError → String
  | truncated _ => "Truncated"
  | unexpectedType _ _ _ => "UnexpectedType"
  | overrun _ _ => "Overrun"
  | unrecognizedCriticalType _ => "UnrecognizedCriticalType"
  | invalidIntegerLength _ => "InvalidNonNegativeIntegerLength"
  | packetTooLarge _ _ => "PacketTooLarge"
  | notALink _ => "NotALink"
  | invalidValue _ => "InvalidValue"
  | unsupported _ => "Unsupported"

/-- The error in words. -/
def DecodingError.message : DecodingError → String
  | truncated offset => s!"input truncated at offset {offset}"
  | unexpectedType expected actual offset =>
    s!"expected TLV type {expected.toNat}, found {actual.toNat} at offset {offset}"
  | overrun offset parentEnd =>
    s!"element at offset {offset} overruns its parent ending at {parentEnd}"
  | unrecognizedCriticalType type => s!"unrecognized critical TLV type {type.toNat}"
  | invalidIntegerLength length => s!"invalid nonNegativeInteger length {length}"
  | packetTooLarge size max => s!"packet of {size} bytes exceeds the maximum of {max} bytes"
  | notALink contentType => s!"content type is {contentType.label}, expected Link"
  | invalidValue fault => s!"invalid {fault.field}: {fault.reason}"
  | unsupported subject => s!"{subject.label} decoding is not supported by this wire format"

/-- Why a value cannot be encoded. -/
inductive EncodingError where
  /-- A signature of a scheme of its own carries no description of the scheme. -/
  | missingSignatureInfo
  /-- The wire format does not write this. -/
  | unsupported (subject : Subject)
  deriving DecidableEq, Repr

/-- The name of the kind of error, by which programs tell errors apart. -/
def EncodingError.kind : EncodingError → String
  | missingSignatureInfo => "InvalidStructure"
  | unsupported _ => "Unsupported"

/-- The error in words. -/
def EncodingError.message : EncodingError → String
  | missingSignatureInfo => "cannot encode structure: generic signature without signature info"
  | unsupported subject => s!"{subject.label} encoding is not supported by this wire format"

end NamedData.Wire
