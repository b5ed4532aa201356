import NamedData.Packet.KeyLocator
import NamedData.Wire.Name

/-!
# Key locators on the wire

The value of a key locator is a name or a digest. A locator that holds the key or its certificate
has no form on the wire.
-/

namespace NamedData.Wire

/-- A key locator as the value of an element. -/
def keyLocatorValue : KeyLocator → Except EncodingError Bytes
  | .absent => .ok []
  | .name n _ => .ok (nameElement n)
  | .digest bytes => .ok (element ElementType.keyLocatorDigest bytes)
  | .key _ => .error (.unsupported .embeddedKey)
  | .certificate _ => .error (.unsupported .embeddedKey)

/-- A key locator as an element of the given type, nothing for an absent one. -/
def keyLocatorElement? (type : UInt64) (k : KeyLocator) : Except EncodingError Bytes :=
  if k.isAbsent then .ok [] else element type <$> keyLocatorValue k

/-- Reads the value of a key locator; it is absent if neither a name nor a digest comes first. -/
def Reader.keyLocatorValue : Reader KeyLocator := do
  match ← optional ElementType.name name with
  | some n => return .name n .unspecified
  | none =>
    match ← optional ElementType.keyLocatorDigest (blob ElementType.keyLocatorDigest) with
    | some bytes => return .digest bytes
    | none => return .absent

end NamedData.Wire
