import NamedData.Change.Place
import NamedData.Wire.Format

/-!
# Packets that count their changes

A packet counts its changes, those of its parts at any depth included, and keeps its encoding for as
long as nothing changes. `Core` is what packets of all kinds have for that: the parts, the count and
the encoding. Decoding into a packet replaces all of it at once or leaves it as it is, and raises its
count above every count that it has had.
-/

namespace NamedData

/-- An encoding and the count of the packet that it was made of. -/
abbrev CachedEncoding := Stamped Wire.SignedBlob

/-- The encoding for a count, if the cache holds one. -/
def CachedEncoding.lookup (cache : Option CachedEncoding) (count : Count) :
    Option Wire.SignedBlob :=
  match cache with
  | some cached => if cached.count = count then some cached.value else none
  | none => none

/-- The tracked parts of a packet, its count, and its last encoding. -/
structure Core (τ : Type) where
  parts : τ
  count : Count
  cache : Option CachedEncoding

namespace Core

variable {τ α : Type}

/-- The place of the parts. -/
def partsPlace : Place (Core τ) τ where
  view c := c.parts
  put parts c := { c with parts }

/-- Notes a change of the packet itself. -/
def touch : Edit (Core τ) Unit := do
  let c ← get
  set { c with count := ← (draw : Draws _) }

/-- Changes a part in place. -/
def edit {ρ : Type} [ChangeCounted α] (place : Place τ (Tracked α)) (e : Edit α ρ) :
    Edit (Core τ) ρ :=
  partsPlace.on (place.on (Tracked.edit e))

/-- Puts another part in the place of one. -/
def assign [ChangeCounted α] (place : Place τ (Tracked α)) (part : α) : Edit (Core τ) Unit := do
  partsPlace.on (place.on (Tracked.replace part))
  touch

/-- Takes up the changes of the parts. -/
def settle [Checkable τ] : Edit (Core τ) Unit := do
  if ← partsPlace.on Checkable.check then touch

/-- Keeps an encoding for a count. -/
def keep (blob : Wire.SignedBlob) (count : Count) : Edit (Core τ) Unit :=
  modify fun c => { c with cache := some ⟨blob, count⟩ }

/-- Drops the encoding. -/
def forget : Edit (Core τ) Unit :=
  modify fun c => { c with cache := none }

end Core

/-- Packets of type `σ`, with tracked parts `τ` and plain values `π`. -/
class LivePacket (σ : Type) (τ π : outParam Type) where
  core : Place σ (Core τ)
  /-- A packet that is new. -/
  make : π → Draws σ
  /-- Gives a new packet another count. -/
  recount : Count → σ → σ
  /-- The type of the outer element. -/
  elementType : UInt64
  decode : Wire.WireFormat → Bytes → Except Wire.DecodingError (π × Wire.SignedBlob)

namespace LivePacket

variable {σ τ π α : Type} [LivePacket σ τ π]

/-- Notes a change of the packet itself. -/
def touch : Edit σ Unit :=
  core.on Core.touch

/-- Changes a part in place. -/
def edit {ρ : Type} [ChangeCounted α] (place : Place τ (Tracked α)) (e : Edit α ρ) : Edit σ ρ :=
  core.on (Core.edit place e)

/-- Puts another part in the place of one. -/
def assign [ChangeCounted α] (place : Place τ (Tracked α)) (part : α) : Edit σ Unit :=
  core.on (Core.assign place part)

/-- Changes something that is no part. -/
def update (f : σ → σ) : Edit σ Unit := do
  modify f
  touch

variable [Checkable τ]

instance (priority := low) : ChangeCounted σ where
  settle := core.on Core.settle
  count p := (core.view p).count

/-! ## Encoding goes through the cache -/

/-- The encoding, from the cache if the packet has not changed since. -/
def encodeOnce (encode : σ → Except Wire.EncodingError Wire.SignedBlob) :
    Edit σ (Except Wire.EncodingError Wire.SignedBlob) := do
  let count ← changeCount
  let p ← get
  match CachedEncoding.lookup (core.view p).cache count with
  | some blob => return .ok blob
  | none =>
    match encode p with
    | .error e => return .error e
    | .ok blob =>
      core.on (Core.keep blob count)
      return .ok blob

/-! ## Decoding replaces the packet -/

/-- Replaces the packet by a decoded one, with a count above the one that it has. -/
def replace (decoded : π) : Edit σ Unit := do
  let fresh ← (make decoded : Draws σ)
  -- Changes of parts that nobody has asked about yet are taken up here, by draws after `make`.
  let floor := (← changeCount) + 1
  set (recount (max (ChangeCounted.count fresh) floor) fresh)

/-- Decodes an input into the packet. The object that takes up the fields is made when the outer
element is entered, and has its count even if a field then turns out to be wrong. -/
def takeUp (format : Wire.WireFormat) (input : Bytes) :
    Edit σ (Except Wire.DecodingError Wire.SignedBlob) := do
  match decode σ format input with
  | .error e =>
    if format.enters (elementType σ) input then discard (draw : Draws _)
    return .error e
  | .ok (decoded, blob) =>
    replace decoded
    return .ok blob

/-- Decodes an input in the initial format and keeps its bytes as the packet's encoding. -/
def wireDecode (input : Bytes) : Edit σ (Except Wire.DecodingError Unit) := do
  match ← takeUp .initial input with
  | .error e => return .error e
  | .ok blob =>
    core.on (Core.keep blob (← changeCount))
    return .ok ()

/-- Decodes an input in another format; the packet then has no encoding yet. -/
def wireDecodeWith (format : Wire.WireFormat) (input : Bytes) :
    Edit σ (Except Wire.DecodingError Unit) := do
  match ← takeUp format input with
  | .error e => return .error e
  | .ok _ =>
    core.on Core.forget
    return .ok ()

end LivePacket

end NamedData
