import NamedData.Config.Basic
import NamedData.Wire.Control
import NamedData.Wire.Data
import NamedData.Wire.Delegation
import NamedData.Wire.Interest

/-!
# Wire formats

A wire format says how each kind of packet is written and read; what it leaves out is refused as not
supported. `WireFormat.tlv` is the format of nested elements under a configuration: it refuses
inputs above the size limit and fills in nonces of the configured length. The random bytes that
nonces are made of are an argument.
-/

namespace NamedData.Wire

/-- How packets are written and read. -/
structure WireFormat where
  encodeName : Name → Except EncodingError Bytes :=
    fun _ => .error (.unsupported .name)
  decodeName : Bytes → Except DecodingError Name :=
    fun _ => .error (.unsupported .name)
  encodeInterest : (random : Nat → UInt8) → Interest → Except EncodingError SignedBlob :=
    fun _ _ => .error (.unsupported .interest)
  decodeInterest : Bytes → Except DecodingError (Interest × SignedBlob) :=
    fun _ => .error (.unsupported .interest)
  encodeData : Data → Except EncodingError SignedBlob :=
    fun _ => .error (.unsupported .data)
  decodeData : Bytes → Except DecodingError (Data × SignedBlob) :=
    fun _ => .error (.unsupported .data)
  encodeSignatureInfo : Signature → Except EncodingError Bytes :=
    fun _ => .error (.unsupported .signatureInfo)
  decodeSignature : (info value : Bytes) → Except DecodingError Signature :=
    fun _ _ => .error (.unsupported .signatureInfo)
  encodeDelegations : DelegationSet → Except EncodingError Bytes :=
    fun _ => .error (.unsupported .delegationSet)
  decodeDelegations : Bytes → Except DecodingError DelegationSet :=
    fun _ => .error (.unsupported .delegationSet)
  encodeNack : NetworkNack → Except EncodingError Bytes :=
    fun _ => .error (.unsupported .networkNack)
  decodeNack : Bytes → Except DecodingError NetworkNack :=
    fun _ => .error (.unsupported .networkNack)
  encodeParameters : ControlParameters → Except EncodingError Bytes :=
    fun _ => .error (.unsupported .controlParameters)
  decodeParameters : Bytes → Except DecodingError ControlParameters :=
    fun _ => .error (.unsupported .controlParameters)
  encodeResponse : ControlResponse → Except EncodingError Bytes :=
    fun _ => .error (.unsupported .controlResponse)
  decodeResponse : Bytes → Except DecodingError ControlResponse :=
    fun _ => .error (.unsupported .controlResponse)
  /-- Whether decoding gets past the header of an outer element of the given type. -/
  enters : (type : UInt64) → Bytes → Bool :=
    fun _ _ => false

/-- Refuses an input above the size limit. -/
def checkSize (config : PacketConfig) (input : Bytes) : Except DecodingError Unit :=
  if config.maxPacketSize.toNat < input.length then
    .error (.packetTooLarge input.length config.maxPacketSize.toNat)
  else .ok ()

/-- Decodes an input unless it is above the size limit. -/
def withinSize {α : Type} (config : PacketConfig) (decode : Bytes → Except DecodingError α)
    (input : Bytes) : Except DecodingError α := do
  checkSize config input
  decode input

/-- The format of nested elements. -/
def WireFormat.tlv (config : PacketConfig) : WireFormat where
  encodeName n := .ok (nameElement n)
  decodeName := withinSize config Reader.name.value
  encodeInterest := Wire.encodeInterest config.nonceLength.toNat
  decodeInterest := withinSize config Wire.decodeInterest
  encodeData := Wire.encodeData
  decodeData := withinSize config Wire.decodeData
  encodeSignatureInfo := Wire.encodeSignatureInfo
  decodeSignature info value := do
    checkSize config info
    checkSize config value
    Wire.decodeSignature info value
  encodeDelegations set := .ok (Wire.encodeDelegations set)
  decodeDelegations := withinSize config Wire.decodeDelegations
  encodeNack nack := .ok (Wire.encodeNack nack)
  decodeNack := withinSize config Reader.nack.value
  encodeParameters p := .ok (Wire.encodeParameters p)
  decodeParameters := withinSize config Reader.parameters.value
  encodeResponse r := .ok (Wire.encodeResponse r)
  decodeResponse := withinSize config Reader.response.value
  enters type input := (withinSize config (Reader.enter type).value input).isOk

/-- The format of nested elements under the initial configuration. -/
def WireFormat.initial : WireFormat :=
  .tlv {}

/-- The delegations that a packet lists if its content is marked as a link. Content that cannot be
read lists none. -/
def linkDelegations (d : Data) : Except DecodingError DelegationSet :=
  if d.metaInfo.contentType = .link then
    -- The content has a size limit of its own, whatever limit the packet was read under.
    match WireFormat.initial.decodeDelegations d.content with
    | .ok delegations => .ok delegations
    | .error _ => .ok {}
  else .error (.notALink d.metaInfo.contentType)

/-- The format that writes and reads nothing. -/
def WireFormat.unsupported : WireFormat := {}

end NamedData.Wire
