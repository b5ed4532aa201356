import NamedData.Live.Link

/-!
# Live Interests

An Interest that counts its changes and keeps its encoding for as long as nothing changes. A nonce
belongs to one state of the Interest: it holds only while the count is the one that it was set at.
-/

namespace NamedData

/-- An exclude that counts its changes. -/
abbrev LiveExclude := Stamped Exclude

/-- An Interest that counts its changes. -/
structure LiveInterest extends InterestSettings where
  name : Tracked LiveName
  keyLocator : Tracked LiveKeyLocator
  exclude : Tracked LiveExclude
  /-- The nonce that was set last. -/
  nonce : Bytes
  /-- The count at which it was set. -/
  nonceCount : Count
  count : Count
  cache : Option CachedEncoding
  deriving DecidableEq, Repr

namespace LiveInterest

/-- The value of an Interest whose parts have not changed since they were last looked at. -/
def toInterest (i : LiveInterest) : Interest where
  toInterestSettings := i.toInterestSettings
  name := i.name.part.value
  keyLocator := i.keyLocator.part.toKeyLocator
  exclude := i.exclude.part.value
  nonce := if i.nonceCount = i.count then i.nonce else []

/-- An Interest that is new. -/
def make (i : Interest) : Draws LiveInterest := do
  let name ← Tracked.make (← Stamped.make i.name)
  let keyLocator ← Tracked.make (← LiveKeyLocator.make i.keyLocator)
  let exclude ← Tracked.make (← Stamped.make i.exclude)
  let count ← draw
  return { i with name, keyLocator, exclude, count, nonceCount := count, cache := none }

/-- An Interest that is new, with the given name and nothing else. -/
def withName (n : LiveName) : Draws LiveInterest := do
  let i ← make { name := .empty }
  return { i with name := ← Tracked.make n }

/-- The parts that count their changes. -/
abbrev Parts := (Tracked LiveName × Tracked LiveKeyLocator) × Tracked LiveExclude

instance : LivePacket LiveInterest Parts Interest where
  core.view i := ⟨((i.name, i.keyLocator), i.exclude), i.count, i.cache⟩
  core.put c i := { i with
    name := c.parts.1.1
    keyLocator := c.parts.1.2
    exclude := c.parts.2
    count := c.count
    cache := c.cache }
  make := make
  -- A nonce that came with the Interest goes on to hold under the count that it gets.
  recount count i := { i with
    count
    nonceCount := if i.nonce.isEmpty then i.nonceCount else count }
  elementType := Wire.ElementType.interest
  decode format := format.decodeInterest

/-- The place of the name. -/
def namePlace : Place Parts (Tracked LiveName) :=
  .left (.left .here)

/-- The place of the key locator. -/
def keyLocatorPlace : Place Parts (Tracked LiveKeyLocator) :=
  .left (.right .here)

/-- The place of the exclude. -/
def excludePlace : Place Parts (Tracked LiveExclude) :=
  .right .here

/-- Changes the name in place. -/
def editName {ρ : Type} (e : Edit LiveName ρ) : Edit LiveInterest ρ :=
  LivePacket.edit namePlace e

/-- Changes the key locator in place. -/
def editKeyLocator {ρ : Type} (e : Edit LiveKeyLocator ρ) : Edit LiveInterest ρ :=
  LivePacket.edit keyLocatorPlace e

/-- Changes the exclude in place. -/
def editExclude {ρ : Type} (e : Edit LiveExclude ρ) : Edit LiveInterest ρ :=
  LivePacket.edit excludePlace e

/-- Puts another name in the place. -/
def setName (n : LiveName) : Edit LiveInterest Unit :=
  LivePacket.assign namePlace n

/-- Puts another key locator in the place. -/
def setKeyLocator (k : LiveKeyLocator) : Edit LiveInterest Unit :=
  LivePacket.assign keyLocatorPlace k

/-- Puts the key locator of a digest in the place; an empty digest means an absent locator. -/
def setPublisherDigest (digest : Bytes) : Edit LiveInterest Unit := do
  let k ← (LiveKeyLocator.make (.ofDigest digest) : Draws _)
  setKeyLocator k

/-- Puts another exclude in the place. -/
def setExclude (e : LiveExclude) : Edit LiveInterest Unit :=
  LivePacket.assign excludePlace e

/-- Changes the settings. -/
def updateSettings (f : InterestSettings → InterestSettings) : Edit LiveInterest Unit :=
  LivePacket.update fun i => { i with toInterestSettings := f i.toInterestSettings }

/-- Sets the nonce, for the state that the Interest has then. -/
def setNonce (nonce : Bytes) : Edit LiveInterest Unit := do
  LivePacket.update fun i => { i with nonce }
  -- Earlier changes of parts are taken up now, so that they do not count against the nonce later.
  let nonceCount ← changeCount
  modify fun i => { i with nonceCount }

/-- The value of the Interest, with the nonce if it holds. -/
def fields : Edit LiveInterest Interest := do
  ChangeCounted.settle
  return (← get).toInterest

/-- Whether another Interest has the same value, and that Interest as it is after the comparison.
Nonces are compared only if what is told apart more easily is equal; comparing them takes up the
changes of the parts on both sides. -/
def sameAs (other : LiveInterest) : Edit LiveInterest (Bool × LiveInterest) := do
  let easy (i : LiveInterest) : Interest :=
    { i.toInterest with nonce := [], link := [], selectedDelegation := none }
  if easy (← get) = easy other then
    let value ← fields
    let (otherValue, other) ← (fields.run other : Draws _)
    return (value = otherValue, other)
  else return (false, other)

/-! ## Links -/

/-- Attaches a link. -/
def setLink (l : LiveLink) : Edit LiveInterest (Except Wire.EncodingError Unit) := do
  let (result, _) ← (LiveLink.wireEncode.run l : Draws _)
  match result with
  | .error e => return .error e
  | .ok blob =>
    updateSettings fun s => { s with link := blob.bytes }
    return .ok ()

/-- The link, if one is attached. -/
def readLink : Edit LiveInterest (Except Wire.DecodingError (Option LiveLink)) := do
  let i ← get
  if i.hasLink then
    let result ← (LiveLink.wireDecode i.link : Draws _)
    return result.map some
  else return .ok none

/-! ## Encoding -/

/-- The encoding in the initial format, from the cache if the Interest has not changed since. -/
def wireEncode (random : Nat → UInt8) :
    Edit LiveInterest (Except Wire.EncodingError Wire.SignedBlob) :=
  LivePacket.encodeOnce fun i => Wire.WireFormat.initial.encodeInterest random i.toInterest

/-- The encoding in another format. -/
def wireEncodeWith (format : Wire.WireFormat) (random : Nat → UInt8) :
    Edit LiveInterest (Except Wire.EncodingError Wire.SignedBlob) := do
  return format.encodeInterest random (← fields)

/-! ## Decoding -/

/-- Decodes an input in the initial format and keeps its bytes as the Interest's encoding. -/
def wireDecode (input : Bytes) : Edit LiveInterest (Except Wire.DecodingError Unit) :=
  LivePacket.wireDecode input

/-- Decodes an input in another format; the Interest then has no encoding yet. -/
def wireDecodeWith (format : Wire.WireFormat) (input : Bytes) :
    Edit LiveInterest (Except Wire.DecodingError Unit) :=
  LivePacket.wireDecodeWith format input

end LiveInterest

end NamedData
