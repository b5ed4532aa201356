import NamedData.Config.Json
import NamedData.Dump.Summary
import NamedData.Text.Blank

/-!
# Dumping a packet

`run` takes the options and the input of one call and answers with what is written to the two output
streams and the exit code. Without a given kind, the type of the outermost element decides which
kind of packet the input is.
-/

namespace NamedData.Dump

/-! ## Kinds of packets -/

/-- The kinds of packets that can be shown. -/
inductive PacketKind where
  | interest
  | data
  | link
  | nack
  | controlParameters
  | controlResponse
  deriving DecidableEq, Repr

/-- The name of a kind in messages. -/
def PacketKind.label : PacketKind → String
  | interest => "interest"
  | data => "data"
  | link => "link"
  | nack => "nack"
  | controlParameters => "control parameters"
  | controlResponse => "control response"

/-- The kind with the given name on the command line. -/
def PacketKind.ofArgument? : String → Option PacketKind
  | "interest" => some .interest
  | "data" => some .data
  | "link" => some .link
  | "nack" => some .nack
  | "control-parameters" => some .controlParameters
  | "control-response" => some .controlResponse
  | _ => none

/-! ## Failures -/

/-- Why a packet cannot be shown. -/
inductive Failure where
  /-- The configuration in a file is refused, and what the JSON reader says about it. -/
  | config (path : String) (e : ConfigError) (fault : String)
  /-- The input should be hexadecimal text but is no text. -/
  | notText (fault : Text.Utf8.Fault)
  /-- The input is text but not hexadecimal. -/
  | notHex (fault : Text.Hex.Fault)
  /-- There is no input. -/
  | emptyInput
  /-- No kind of packet has this type. -/
  | unknownType (type : UInt64)
  /-- The input is no packet of its kind. -/
  | decoding (kind : PacketKind) (e : Wire.DecodingError)
  /-- The packet is no link. -/
  | notALink (e : Wire.DecodingError)
  /-- The packet cannot be encoded for its full name. -/
  | fullName (e : Wire.EncodingError)
  deriving DecidableEq, Repr

/-- A refused hexadecimal text in words. -/
def hexMessage : Text.Hex.Fault → String
  | .oddLength => "Odd number of digits"
  | .notADigit byte index =>
    "Invalid character " ++ String.ofList (Text.Quoted.char (Char.ofNat byte.toNat))
      ++ s!" at position {index}"

/-- What failed, and the causes in turn. -/
def Failure.chain : Failure → List String
  | config path .parse fault =>
    ["loading config " ++ path, ConfigError.parse.message ++ ": " ++ fault, fault]
  | config path e _ => ["loading config " ++ path, e.message]
  | notText fault => ["hex input is not text", fault.message]
  | notHex fault => ["invalid hex input", hexMessage fault]
  | emptyInput => ["empty input"]
  | unknownType type =>
    ["cannot detect packet kind of TLV type 0x"
      ++ String.ofList (Text.Quoted.hexNumeral type.toNat)]
  | decoding kind e => ["decoding " ++ kind.label, e.message]
  | notALink e => [e.message]
  | fullName e => ["computing full name", e.message]

/-- Several causes, each with its number. -/
def numbered : (number : Nat) → List String → String
  | _, [] => ""
  | number, cause :: rest => s!"    {number}: {cause}\n" ++ numbered (number + 1) rest

/-- What failed as it is written to the error stream. -/
def Failure.report (failure : Failure) : String :=
  match failure.chain with
  | [] => "Error\n"
  | [message] => s!"Error: {message}\n"
  | [message, cause] => s!"Error: {message}\n\nCaused by:\n    {cause}\n"
  | message :: causes => s!"Error: {message}\n\nCaused by:\n" ++ numbered 0 causes

/-! ## Reading the input -/

/-- The bytes of a packet in an input that may be hexadecimal text with blanks. -/
def readInput (hex : Bool) (raw : Bytes) : Except Failure Bytes :=
  if hex then
    match Text.Utf8.decode raw with
    | .error fault => .error (.notText fault)
    | .ok text =>
      match Text.Hex.decode (Text.Utf8.encode (text.filter fun c => !Text.isBlank c)) with
      | .error fault => .error (.notHex fault)
      | .ok bytes => .ok bytes
  else .ok raw

/-- The type of the outermost element: a single byte, or two after the byte that announces them. -/
def outerType : Bytes → Except Failure UInt64
  | [] => .error .emptyInput
  | 0xFD :: high :: low :: _ => .ok (high.toUInt64 * 256 + low.toUInt64)
  | first :: _ => .ok first.toUInt64

/-- The kind of packet whose outermost element has a type. -/
def kindOfType (type : UInt64) : Except Failure PacketKind :=
  if type = Wire.ElementType.interest then .ok .interest
  else if type = Wire.ElementType.data then .ok .data
  else if type = Wire.ElementType.networkNack then .ok .nack
  else if type = Wire.ElementType.controlParameters then .ok .controlParameters
  else if type = Wire.ElementType.controlResponse then .ok .controlResponse
  else .error (.unknownType type)

/-- The kind of packet in an input. -/
def detectKind (input : Bytes) : Except Failure PacketKind := do
  kindOfType (← outerType input)

/-! ## Showing a packet -/

/-- The error of a kind's decoder as a failure. -/
def decodeAs {α : Type} (kind : PacketKind) (result : Except Wire.DecodingError α) :
    Except Failure α :=
  result.mapError (.decoding kind)

/-- The summary of a Data packet as a link. -/
def summarizeLink (d : Data) : Except Failure Summary := do
  let delegations ← (Wire.linkDelegations d).mapError .notALink
  return ofLink d delegations

/-- The summary of a packet of the given kind under a configuration. -/
def summarize (config : PacketConfig) (kind : PacketKind) (input : Bytes) :
    Except Failure Summary := do
  let format := Wire.WireFormat.tlv config
  match kind with
  | .interest =>
    let (i, _) ← decodeAs kind (format.decodeInterest input)
    return ofInterest config i
  | .data =>
    let (d, _) ← decodeAs kind (format.decodeData input)
    if d.metaInfo.contentType = .link then summarizeLink d
    else return ofData (← (fullName d).mapError .fullName) d
  | .link =>
    let (d, _) ← decodeAs kind (format.decodeData input)
    summarizeLink d
  | .nack => return ofNack (← decodeAs kind (format.decodeNack input))
  | .controlParameters => return ofParameters (← decodeAs kind (format.decodeParameters input))
  | .controlResponse => return ofResponse (← decodeAs kind (format.decodeResponse input))

/-! ## A whole call -/

/-- The options of a call. -/
structure Options where
  /-- The kind of packet, to be found out if it is not given. -/
  kind : Option PacketKind := none
  /-- The input is hexadecimal text. -/
  hex : Bool := false
  /-- The summary is written as JSON. -/
  json : Bool := false
  /-- The path and the text of a file with the configuration. -/
  config : Option (String × String) := none
  /-- What the JSON reader says about a configuration that it cannot read; nothing unless it is given. -/
  configFault : String := ""
  deriving DecidableEq, Repr

/-- The configuration of a call. -/
def Options.loadConfig (options : Options) : Except Failure PacketConfig :=
  match options.config with
  | none => .ok {}
  | some (path, text) =>
    (PacketConfig.ofJson text).mapError fun e => .config path e options.configFault

/-- What a call writes and how it ends. -/
structure Outcome where
  exitCode : UInt8
  output : String
  errors : String
  deriving DecidableEq, Repr

/-- The summary as it is written to the output stream. -/
def Summary.render (json : Bool) (summary : Summary) : String :=
  if json then String.ofList (summary.json.pretty 0) ++ "\n"
  else String.join (summary.lines.map (· ++ "\n"))

/-- The text that a call writes to the output stream. -/
def output (options : Options) (raw : Bytes) : Except Failure String := do
  let config ← options.loadConfig
  let input ← readInput options.hex raw
  let kind ←
    match options.kind with
    | some kind => pure kind
    | none => detectKind input
  let summary ← summarize config kind input
  return summary.render options.json

/-- Everything that a call does. -/
def run (options : Options) (raw : Bytes) : Outcome :=
  match output options raw with
  | .ok text => ⟨0, text, ""⟩
  | .error failure => ⟨1, "", failure.report⟩

end NamedData.Dump
