import NamedData.Sha256
import NamedData.Text.Json
import NamedData.Wire.Format

/-!
# Summaries of packets

A summary shows what a packet says, as lines of text and as a JSON value.
-/

namespace NamedData.Dump

open Text (Json)

/-- What is shown of a packet. -/
structure Summary where
  lines : List String
  json : Json

/-- Bytes in hexadecimal. -/
def hexText (bytes : Bytes) : String :=
  String.ofList (Text.Hex.encode bytes)

/-- The path of a name as a JSON value. -/
def nameJson (n : Name) : Json :=
  .ofString n.toUri

/-- A number of 64 bits as a JSON value. -/
def numberJson (n : UInt64) : Json :=
  .number n.toNat

/-- Where the key of a signature is, in words. -/
def describe : KeyLocator → String
  | .absent => "none"
  | .key bytes => s!"key ({bytes.length} bytes)"
  | .certificate bytes => s!"certificate ({bytes.length} bytes)"
  | .digest bytes => "digest " ++ hexText bytes
  | .name n _ => "name " ++ n.toUri

/-- The summary of an Interest under a configuration. -/
def ofInterest (config : PacketConfig) (i : Interest) : Summary :=
  let lifetime := i.effectiveLifetime config
  { lines :=
      ["Interest " ++ i.toUri,
        "  nonce: " ++ hexText i.nonce,
        s!"  lifetime: {lifetime.wholeMillis} ms",
        s!"  must be fresh: {i.mustBeFresh}",
        "  key locator: " ++ describe i.keyLocator,
        s!"  link: {i.hasLink}"]
    json := .record
      [("kind", .ofString "interest"),
        ("uri", .ofString i.toUri),
        ("name", nameJson i.name),
        ("nonce", .ofString (hexText i.nonce)),
        ("lifetime_ms", numberJson lifetime.truncatedMillis),
        ("must_be_fresh", .bool i.mustBeFresh),
        ("scope", .ofOption (fun n => .number n.toNat) i.scope),
        ("selected_delegation", .ofOption (fun n => .number n.toNat) i.selectedDelegation)] }

/-- The name of a Data packet followed by the digest of its encoding. -/
def fullName (d : Data) : Except Wire.EncodingError Name :=
  (Wire.WireFormat.initial.encodeData d).map fun blob =>
    d.name.withDigest (Sha256.digest blob.bytes)

/-- The summary of a Data packet with the given full name. -/
def ofData (fullName : Name) (d : Data) : Summary :=
  let freshness := d.metaInfo.freshnessPeriod.map Time.Duration.truncatedMillis
  let finalBlock := d.metaInfo.finalBlockId.map Component.toUri
  let scheme := d.signature.type?.map SignatureType.label
  let keyLocator := (d.signature.keyLocator?.map describe).getD "none"
  { lines :=
      ["Data " ++ d.name.toUri,
        "  full name: " ++ fullName.toUri,
        "  content type: " ++ d.metaInfo.contentType.label]
      ++ freshness.toList.map (fun millis => s!"  freshness: {millis.toNat} ms")
      ++ finalBlock.toList.map (fun segment => "  final block: " ++ segment)
      ++ [s!"  content: {d.content.length} bytes",
        "  signature: " ++ scheme.getD "unknown" ++ " key locator: " ++ keyLocator]
    json := .record
      [("kind", .ofString "data"),
        ("name", nameJson d.name),
        ("full_name", nameJson fullName),
        ("content_type", .ofString d.metaInfo.contentType.label),
        ("freshness_ms", .ofOption numberJson freshness),
        ("final_block_id", .ofOption .ofString finalBlock),
        ("content", .ofString (hexText d.content)),
        ("signature_type", .ofOption .ofString scheme),
        ("key_locator", .ofString keyLocator),
        ("signature", .ofString (hexText d.signature.bytes))] }

/-- The summary of a link: a Data packet that lists delegations. -/
def ofLink (d : Data) (delegations : DelegationSet) : Summary :=
  { lines := ("Link " ++ d.name.toUri) :: delegations.entries.map fun delegation =>
      s!"  {delegation.preference.toNat} " ++ delegation.name.toUri
    json := .record
      [("kind", .ofString "link"),
        ("name", nameJson d.name),
        ("delegations", .array (delegations.entries.map fun delegation =>
          .record
            [("preference", numberJson delegation.preference),
              ("name", nameJson delegation.name)]))] }

/-- The summary of a refusal. -/
def ofNack (nack : NetworkNack) : Summary :=
  { lines := ["Nack reason=" ++ nack.reason.label]
    json := .record
      [("kind", .ofString "nack"), ("reason", .ofString nack.reason.label)] }

/-- The parameters of a command as a JSON value. -/
def parametersJson (p : ControlParameters) : Json :=
  .record
    [("name", .ofOption nameJson p.name),
      ("face_id", .ofOption numberJson p.faceId),
      ("uri", .ofOption .ofString p.uri),
      ("local_control_feature", .ofOption numberJson p.localControlFeature),
      ("origin", .ofOption numberJson p.origin),
      ("cost", .ofOption numberJson p.cost),
      ("child_inherit", .bool p.flags.childInherit),
      ("capture", .bool p.flags.capture),
      ("strategy", .ofOption nameJson p.strategy),
      ("expiration_ms",
        .ofOption (fun period => numberJson period.truncatedMillis) p.expirationPeriod)]

/-- A JSON value on one line. -/
def inline (json : Json) : String :=
  String.ofList json.compact

/-- The summary of the parameters of a command. -/
def ofParameters (p : ControlParameters) : Summary :=
  { lines := ["ControlParameters " ++ inline (parametersJson p)], json := parametersJson p }

/-- The summary of the answer to a command. -/
def ofResponse (r : ControlResponse) : Summary :=
  let body := r.body.map parametersJson
  { lines :=
      s!"ControlResponse {r.statusCode.toNat} {r.statusText}"
        :: body.toList.map fun json => "  body: " ++ inline json
    json := .record
      [("kind", .ofString "control-response"),
        ("status_code", numberJson r.statusCode),
        ("status_text", .ofString r.statusText),
        ("body", body.getD .null)] }

end NamedData.Dump
