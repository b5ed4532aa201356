import NamedData.Name.Component
import NamedData.Wire.Error
import NamedData.Wire.Integer

/-!
# Numbers in name components

A component can hold a number in one, two, four or eight bytes, on its own or behind a marker byte
that says what it counts: segments, segment offsets, timestamps, versions or sequence numbers. `has`
recognises a marked component and `number` reads it.
-/

namespace NamedData

/-- What a marked number counts. -/
inductive Marker where
  | segment
  | segmentOffset
  | version
  | timestamp
  | sequenceNumber
  deriving DecidableEq, Repr

/-- The byte in front of a marked number. -/
def Marker.byte : Marker → UInt8
  | segment => 0x00
  | segmentOffset => 0xFB
  | timestamp => 0xFC
  | version => 0xFD
  | sequenceNumber => 0xFE

namespace Component

/-- The component with the shortest form of a number. -/
def ofNumber (n : UInt64) : Component :=
  generic (Wire.Integer.encode n)

/-- The component with a marker byte and the shortest form of a number. -/
def ofMarkedNumber (marker : UInt8) (n : UInt64) : Component :=
  generic (marker :: Wire.Integer.encode n)

/-- The component that counts `n` of what the marker says. -/
def ofMarker (marker : Marker) (n : UInt64) : Component :=
  ofMarkedNumber marker.byte n

/-- Whether a generic component holds the marker and a number of a possible length. -/
def has (marker : Marker) (c : Component) : Bool :=
  c.type == .generic && c.value.head? == some marker.byte
    && [1, 2, 4, 8].contains (c.value.length - 1)

/-- The number whose bytes are the whole value. -/
def toNumber (c : Component) : Except Wire.DecodingError UInt64 :=
  Wire.Integer.decode c.value

/-- The number behind the marker. -/
def number (marker : Marker) (c : Component) : Except Wire.DecodingError UInt64 :=
  match c.value with
  | [] => .error (.invalidValue (.missingMarker marker.byte))
  | first :: rest =>
    if first = marker.byte then Wire.Integer.decode rest
    else .error (.invalidValue (.missingMarker marker.byte))

end Component

end NamedData
