import NamedData.Packet.Control
import NamedData.Wire.Name
import NamedData.Wire.Signature

/-!
# Control messages on the wire

Refusals by forwarders, parameters of management commands and responses to them. Fields that are
unset, a reason that is unspecified and flags that are as they are at first take no bytes.
-/

namespace NamedData.Wire

/-- Encodes a refusal. -/
def encodeNack (nack : NetworkNack) : Bytes :=
  element ElementType.networkNack
    (if nack.reason = .unspecified then []
      else integerElement ElementType.nackReason nack.reason.code)

/-- A name as an element, or nothing. -/
def nameElement? : Option Name → Bytes
  | none => []
  | some n => nameElement n

/-- Parameters as an element. -/
def encodeParameters (p : ControlParameters) : Bytes :=
  element ElementType.controlParameters
    (nameElement? p.name
      ++ integerElement? ElementType.faceId p.faceId
      ++ (match p.uri with
        | none => []
        | some uri => element ElementType.uri (Text.Utf8.encode uri.toList))
      ++ integerElement? ElementType.localControlFeature p.localControlFeature
      ++ integerElement? ElementType.origin p.origin
      ++ integerElement? ElementType.cost p.cost
      ++ (if p.flags = .initial then [] else integerElement ElementType.flags p.flags.bits)
      ++ (match p.strategy with
        | none => []
        | some n => element ElementType.strategy (nameElement n))
      ++ integerElement? ElementType.expirationPeriod
        (p.expirationPeriod.map Time.Duration.saturatedMillis))

/-- A response as an element. -/
def encodeResponse (r : ControlResponse) : Bytes :=
  element ElementType.controlResponse
    (integerElement ElementType.statusCode r.statusCode
      ++ element ElementType.statusText (Text.Utf8.encode r.statusText.toList)
      ++ (match r.body with
        | none => []
        | some p => encodeParameters p))

namespace Reader

/-- Reads a number if the next element has the given type. -/
def optionalInteger (type : UInt64) : Reader (Option UInt64) :=
  optional type (integer type)

/-- Reads a text. -/
def text (field : TextField) (type : UInt64) : Reader String := do
  let value ← blob type
  String.ofList <$> lift (decodeText field value)

/-- Reads a refusal. -/
def nack : Reader NetworkNack :=
  nested ElementType.networkNack do
    let code ← optionalInteger ElementType.nackReason
    return ⟨(code.map NackReason.ofCode).getD .unspecified⟩

/-- Reads parameters. -/
def parameters : Reader ControlParameters :=
  nested ElementType.controlParameters do
    let name ← optional ElementType.name name
    let faceId ← optionalInteger ElementType.faceId
    let uri ← optional ElementType.uri (text .uri ElementType.uri)
    let localControlFeature ← optionalInteger ElementType.localControlFeature
    let origin ← optionalInteger ElementType.origin
    let cost ← optionalInteger ElementType.cost
    let flags ← optionalInteger ElementType.flags
    let strategy ← optionalNested ElementType.strategy Reader.name
    let expiration ← optionalInteger ElementType.expirationPeriod
    return {
      name, faceId, uri, localControlFeature, origin, cost, strategy
      flags := (flags.map ForwardingFlags.mk).getD .initial
      expirationPeriod := expiration.map Time.Duration.ofMillis }

/-- Reads a response. -/
def response : Reader ControlResponse :=
  nested ElementType.controlResponse do
    let statusCode ← integer ElementType.statusCode
    let statusText ← text .statusText ElementType.statusText
    let body ← optional ElementType.controlParameters parameters
    return { statusCode, statusText, body }

end Reader

end NamedData.Wire
