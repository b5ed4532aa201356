import NamedData.Packet.Data
import NamedData.Wire.Signature
import NamedData.Wire.SignedBlob

/-!
# Data packets on the wire

The value of a Data packet is the name, the meta information, the content and the two elements of
the signature. The signed range is all of it up to the signature's bytes.
-/

namespace NamedData.Wire

/-- Meta information as the value of an element. -/
def metaInfoValue (m : MetaInfo) : Bytes :=
  (if m.contentType = .blob then [] else integerElement ElementType.contentType m.contentType.code)
    ++ integerElement? ElementType.freshnessPeriod
      (m.freshnessPeriod.map Time.Duration.saturatedMillis)
    ++ (match m.finalBlockId with
      | none => []
      | some c => element ElementType.finalBlockId (componentElement c))

/-- The signed part of a Data packet, given the description of the signature's scheme. -/
def signedPart (d : Data) (info : Bytes) : Bytes :=
  nameElement d.name ++ element ElementType.metaInfo (metaInfoValue d.metaInfo)
    ++ element ElementType.content d.content ++ info

/-- Encodes a Data packet. -/
def encodeData (d : Data) : Except EncodingError SignedBlob := do
  let signed := signedPart d (← encodeSignatureInfo d.signature)
  let value := signed ++ element ElementType.signatureValue d.signature.bytes
  let signedBegin := (header ElementType.data value.length).length
  return ⟨element ElementType.data value, signedBegin, signedBegin + signed.length⟩

namespace Reader

/-- Reads the value of meta information. -/
def metaInfo : Reader MetaInfo := do
  let code ← optional ElementType.contentType (integer ElementType.contentType)
  let freshness ← optional ElementType.freshnessPeriod (integer ElementType.freshnessPeriod)
  let finalBlockId ← optionalNested ElementType.finalBlockId component
  return {
    finalBlockId
    contentType := (code.map ContentType.ofCode).getD .blob
    freshnessPeriod := freshness.map Time.Duration.ofMillis }

/-- Reads a Data packet and its signed range. -/
def data : Reader (Data × Nat × Nat) :=
  nested ElementType.data do
    let signedBegin ← offset
    let name ← name
    let metaInfo ← optionalNested ElementType.metaInfo metaInfo
    let content ← optional ElementType.content (blob ElementType.content)
    let (_, info) ← withBytes (blob ElementType.signatureInfo)
    let signedEnd ← offset
    let (_, value) ← withBytes (blob ElementType.signatureValue)
    let signature ← lift (decodeSignature info value)
    return ({
      name, signature
      metaInfo := metaInfo.getD {}
      content := content.getD [] }, signedBegin, signedEnd)

end Reader

/-- Decodes a Data packet at the start of an input, and the part of the input it takes up. -/
def decodeData (input : Bytes) : Except DecodingError (Data × SignedBlob) := do
  let ((d, signedBegin, signedEnd), c) ← Reader.data.run input
  return (d, ⟨input.take c.offset, signedBegin, signedEnd⟩)

end NamedData.Wire
