import NamedData.Live.Packet
import NamedData.Live.Signature
import NamedData.Matching
import NamedData.Sha256

/-!
# Live Data packets

A Data packet that counts its changes and keeps its encoding for as long as nothing changes.
-/

namespace NamedData

/-- Meta information that counts its changes. -/
abbrev LiveMetaInfo := Stamped MetaInfo

/-- A Data packet that counts its changes. -/
structure LiveData where
  name : Tracked LiveName
  metaInfo : Tracked LiveMetaInfo
  signature : Tracked LiveSignature
  content : Bytes
  count : Count
  cache : Option CachedEncoding
  deriving DecidableEq, Repr

namespace LiveData

/-- The value of a packet at the moment. -/
def toData (d : LiveData) : Data where
  name := d.name.part.value
  metaInfo := d.metaInfo.part.value
  content := d.content
  signature := d.signature.part.toSignature

/-- A packet that is new. -/
def make (d : Data) : Draws LiveData := do
  let name ← Tracked.make (← Stamped.make d.name)
  let metaInfo ← Tracked.make (← Stamped.make d.metaInfo)
  let signature ← Tracked.make (← LiveSignature.make d.signature)
  return ⟨name, metaInfo, signature, d.content, ← draw, none⟩

/-- A packet that is new, with the given name and nothing else. -/
def withName (n : LiveName) : Draws LiveData := do
  let d ← make { name := .empty }
  return { d with name := ← Tracked.make n }

/-- The parts that count their changes. -/
abbrev Parts := (Tracked LiveName × Tracked LiveMetaInfo) × Tracked LiveSignature

instance : LivePacket LiveData Parts Data where
  core.view d := ⟨((d.name, d.metaInfo), d.signature), d.count, d.cache⟩
  core.put c d := { d with
    name := c.parts.1.1
    metaInfo := c.parts.1.2
    signature := c.parts.2
    count := c.count
    cache := c.cache }
  make := make
  recount count d := { d with count }
  elementType := Wire.ElementType.data
  decode format := format.decodeData

/-- The place of the name. -/
def namePlace : Place Parts (Tracked LiveName) :=
  .left (.left .here)

/-- The place of the meta information. -/
def metaInfoPlace : Place Parts (Tracked LiveMetaInfo) :=
  .left (.right .here)

/-- The place of the signature. -/
def signaturePlace : Place Parts (Tracked LiveSignature) :=
  .right .here

/-- Changes the name in place. -/
def editName {ρ : Type} (e : Edit LiveName ρ) : Edit LiveData ρ :=
  LivePacket.edit namePlace e

/-- Changes the meta information in place. -/
def editMetaInfo {ρ : Type} (e : Edit LiveMetaInfo ρ) : Edit LiveData ρ :=
  LivePacket.edit metaInfoPlace e

/-- Changes the signature in place. -/
def editSignature {ρ : Type} (e : Edit LiveSignature ρ) : Edit LiveData ρ :=
  LivePacket.edit signaturePlace e

/-- Puts another name in the place. -/
def setName (n : LiveName) : Edit LiveData Unit :=
  LivePacket.assign namePlace n

/-- Puts other meta information in the place. -/
def setMetaInfo (m : LiveMetaInfo) : Edit LiveData Unit :=
  LivePacket.assign metaInfoPlace m

/-- Puts another signature in the place. -/
def setSignature (s : LiveSignature) : Edit LiveData Unit :=
  LivePacket.assign signaturePlace s

/-- Changes the content. -/
def setContent (content : Bytes) : Edit LiveData Unit :=
  LivePacket.update fun d => { d with content }

/-! ## Encoding -/

/-- The encoding in the initial format, from the cache if the packet has not changed since. -/
def wireEncode : Edit LiveData (Except Wire.EncodingError Wire.SignedBlob) :=
  LivePacket.encodeOnce fun d => Wire.WireFormat.initial.encodeData d.toData

/-- The encoding in another format. -/
def wireEncodeWith (format : Wire.WireFormat) :
    Edit LiveData (Except Wire.EncodingError Wire.SignedBlob) := do
  return format.encodeData (← get).toData

/-- The name followed by the digest of the packet's encoding. -/
def fullName : Edit LiveData (Except Wire.EncodingError LiveName) := do
  match ← wireEncode with
  | .error e => return .error e
  | .ok blob =>
    let n := (← get).toData.name
    return .ok ⟨n.withDigest (Sha256.digest blob.bytes), ← (draw : Draws _)⟩

/-- Whether the packet answers an Interest. -/
def answers (i : Interest) : Edit LiveData (Except Wire.EncodingError Bool) := do
  let d := (← get).toData
  let fullName : ExceptT Wire.EncodingError (Edit LiveData) Name :=
    (fun n => n.value) <$> ExceptT.mk fullName
  (i.matchesData d fullName).run

/-! ## Decoding -/

/-- Decodes an input in the initial format and keeps its bytes as the packet's encoding. -/
def wireDecode (input : Bytes) : Edit LiveData (Except Wire.DecodingError Unit) :=
  LivePacket.wireDecode input

/-- Decodes an input in another format; the packet then has no encoding yet. -/
def wireDecodeWith (format : Wire.WireFormat) (input : Bytes) :
    Edit LiveData (Except Wire.DecodingError Unit) :=
  LivePacket.wireDecodeWith format input

end LiveData

end NamedData
