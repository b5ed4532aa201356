import NamedData.Name.Basic

/-!
# Key locators

A key locator says where the key is that verifies a signature: by name, by digest, or by holding the
key or its certificate.
-/

namespace NamedData

/-- What the name of a key locator is the name of. -/
inductive KeyNameType where
  /-- Nothing is said about it. -/
  | unspecified
  | publisherPublicKeyDigest
  | publisherCertificateDigest
  | publisherIssuerKeyDigest
  | publisherIssuerCertificateDigest
  deriving DecidableEq, Repr

namespace KeyNameType

/-- All types. -/
def all : List KeyNameType :=
  [unspecified, publisherPublicKeyDigest, publisherCertificateDigest, publisherIssuerKeyDigest,
    publisherIssuerCertificateDigest]

/-- The name of a type. -/
def label : KeyNameType → String
  | unspecified => "None"
  | publisherPublicKeyDigest => "PublisherPublicKeyDigest"
  | publisherCertificateDigest => "PublisherCertificateDigest"
  | publisherIssuerKeyDigest => "PublisherIssuerKeyDigest"
  | publisherIssuerCertificateDigest => "PublisherIssuerCertificateDigest"

/-- The type of a name. -/
def ofLabel? (label : String) : Option KeyNameType :=
  all.find? fun type => type.label == label

end KeyNameType

/-- Where the key of a signature is. -/
inductive KeyLocator where
  /-- Nothing is said about it. -/
  | absent
  | key (bytes : Bytes)
  | certificate (bytes : Bytes)
  | digest (bytes : Bytes)
  | name (name : Name) (type : KeyNameType)
  deriving DecidableEq, Repr

namespace KeyLocator

/-- Whether nothing is said about the key. -/
def isAbsent : KeyLocator → Bool
  | absent => true
  | _ => false

/-- The name of a kind of locator. -/
def label : KeyLocator → String
  | absent => "None"
  | key _ => "Key"
  | certificate _ => "Certificate"
  | digest _ => "KeyLocatorDigest"
  | name _ _ => "KeyName"

/-- The name and its type, if the locator is one. -/
def name? : KeyLocator → Option (Name × KeyNameType)
  | name n type => some (n, type)
  | _ => none

/-- The bytes of a locator that is not a name. -/
def bytes? : KeyLocator → Option Bytes
  | key bytes => some bytes
  | certificate bytes => some bytes
  | digest bytes => some bytes
  | absent => none
  | name _ _ => none

/-- The digest, empty for every other kind of locator. -/
def digestBytes : KeyLocator → Bytes
  | digest bytes => bytes
  | _ => []

/-- The locator of a digest, absent for an empty one. -/
def ofDigest (bytes : Bytes) : KeyLocator :=
  if bytes.isEmpty then absent else digest bytes

/-- The locator as the wire can hold it: names carry no type there. -/
def normalize : KeyLocator → KeyLocator
  | name n _ => name n.normalize .unspecified
  | other => other

end KeyLocator

end NamedData
