import NamedData.Packet.KeyLocator
import NamedData.Time.Instant

/-!
# Signatures

A signature has a scheme and the bytes that the scheme produced. Schemes with a secret or a private
key carry a key locator, those with a private key also the period in which the signature is valid.
A scheme without a name here is kept as the encoded description it came with.
-/

namespace NamedData

/-- The scheme of a signature by number. -/
inductive SignatureType where
  | digestSha256
  | sha256WithRsa
  | sha256WithEcdsa
  | hmacWithSha256
  /-- Any other scheme. -/
  | other (code : UInt64)
  deriving DecidableEq, Repr

namespace SignatureType

/-- The number of a scheme on the wire. -/
def code : SignatureType → UInt64
  | digestSha256 => 0
  | sha256WithRsa => 1
  | sha256WithEcdsa => 3
  | hmacWithSha256 => 4
  | other code => code

/-- The scheme of a number. -/
def ofCode (code : UInt64) : SignatureType :=
  if code = 0 then digestSha256
  else if code = 1 then sha256WithRsa
  else if code = 3 then sha256WithEcdsa
  else if code = 4 then hmacWithSha256
  else other code

/-- The name of a scheme. -/
def label : SignatureType → String
  | digestSha256 => "DigestSha256"
  | sha256WithRsa => "Sha256WithRsa"
  | sha256WithEcdsa => "Sha256WithEcdsa"
  | hmacWithSha256 => "HmacWithSha256"
  | other code => s!"Other({code.toNat})"

end SignatureType

/-- The period in which a signature is valid, if it is limited. -/
structure ValidityPeriod where
  /-- The first and the last instant. -/
  bounds : Option (Time.Instant × Time.Instant) := none
  deriving DecidableEq, Repr

/-- Whether the period is set and holds an instant; both bounds belong to it. -/
def ValidityPeriod.contains (period : ValidityPeriod) (t : Time.Instant) : Bool :=
  match period.bounds with
  | some (first, last) => first.le t && t.le last
  | none => false

/-- A signature over a Data packet. -/
inductive Signature where
  /-- A plain digest. -/
  | digestSha256 (bytes : Bytes)
  /-- A keyed digest. -/
  | hmacWithSha256 (bytes : Bytes) (keyLocator : KeyLocator)
  | sha256WithRsa (bytes : Bytes) (keyLocator : KeyLocator) (validity : ValidityPeriod)
  | sha256WithEcdsa (bytes : Bytes) (keyLocator : KeyLocator) (validity : ValidityPeriod)
  /-- Another scheme: the description as it is encoded, and the scheme's number if it is known. -/
  | generic (bytes info : Bytes) (typeCode : Option UInt64)
  deriving DecidableEq, Repr

namespace Signature

/-- The signature of a new packet. -/
def initial : Signature :=
  sha256WithRsa [] .absent {}

/-- The bytes that the scheme produced. -/
def bytes : Signature → Bytes
  | digestSha256 bytes => bytes
  | hmacWithSha256 bytes _ => bytes
  | sha256WithRsa bytes _ _ => bytes
  | sha256WithEcdsa bytes _ _ => bytes
  | generic bytes _ _ => bytes

/-- The signature with other bytes. -/
def withBytes (bytes : Bytes) : Signature → Signature
  | digestSha256 _ => digestSha256 bytes
  | hmacWithSha256 _ keyLocator => hmacWithSha256 bytes keyLocator
  | sha256WithRsa _ keyLocator validity => sha256WithRsa bytes keyLocator validity
  | sha256WithEcdsa _ keyLocator validity => sha256WithEcdsa bytes keyLocator validity
  | generic _ info typeCode => generic bytes info typeCode

/-- The scheme, if its number is known. -/
def type? : Signature → Option SignatureType
  | digestSha256 _ => some .digestSha256
  | hmacWithSha256 _ _ => some .hmacWithSha256
  | sha256WithRsa _ _ _ => some .sha256WithRsa
  | sha256WithEcdsa _ _ _ => some .sha256WithEcdsa
  | generic _ _ typeCode => typeCode.map .ofCode

/-- The key locator of a scheme that has one. -/
def keyLocator? : Signature → Option KeyLocator
  | hmacWithSha256 _ keyLocator => some keyLocator
  | sha256WithRsa _ keyLocator _ => some keyLocator
  | sha256WithEcdsa _ keyLocator _ => some keyLocator
  | digestSha256 _ => none
  | generic _ _ _ => none

/-- The validity period of a scheme that has one. -/
def validity? : Signature → Option ValidityPeriod
  | sha256WithRsa _ _ validity => some validity
  | sha256WithEcdsa _ _ validity => some validity
  | digestSha256 _ => none
  | hmacWithSha256 _ _ => none
  | generic _ _ _ => none

end Signature

end NamedData
