import NamedData.Proofs.Dump.Call
import NamedData.Proofs.Dump.Summary
import NamedData.Proofs.Live.Decoding
import NamedData.Proofs.Wire.DataRecoding

/-!
# The full name that is shown

A Data packet is found under its full name, which ends in the digest of its bytes. A dump takes the digest
of what the decoded packet is encoded as. The name that it shows is therefore that of the input if the
input is this encoding (`fullName_shown`), and that of another packet if a number is written in a wide form,
if meta information or content are left out, or if there are elements that are skipped
(`fullName_of_short`). A packet that has decoded the input by itself keeps the bytes and answers their
digest (`LiveData.fullName_of_wireDecode`).
-/

namespace NamedData

open Observed (Drawn)
open LivePacket (keeping withCache replace)

/-! ## Full names of packets that decode -/

namespace LiveData

variable {n : Count} {p : LiveData} {input : Bytes} {d : Data}

/-- The packet decodes, and then answers the full name. -/
def AnswersFullName (n : Count) (p : LiveData)
    (decode : Edit LiveData (Except Wire.DecodingError Unit)) (full : Name) : Prop :=
  ∃ p' n', decode p n = ((.ok (), p'), n') ∧ ∃ name, (fullName p' n').1.1 = .ok name ∧ name.value = full

/-- A packet that decodes in the initial format keeps the bytes that it takes, so its full name has their
digest. -/
theorem fullName_of_wireDecode {blob : Wire.SignedBlob} (hdrawn : Drawn n p)
    (hdecode : Wire.WireFormat.initial.decodeData input = .ok (d, blob)) :
    AnswersFullName n p (wireDecode input) (d.name.withDigest (Sha256.digest blob.bytes)) := by
  have hreplaced : Replaced n p _ (keeping (replace d p n).1.2 blob) d :=
    (replaced hdrawn d).withCache _
  have hvalue : (replace d p n).1.2.toData = d := hreplaced.present_eq
  refine ⟨_, _, wireDecode_ok hdrawn hdecode,
    ⟨d.name.withDigest (Sha256.digest blob.bytes), (replace d p n).2⟩, ?_, rfl⟩
  rw [fullName_keeping (settle_of_settled hreplaced.drawn hreplaced.settled), hvalue]

/-- A packet that decodes in a format that is given keeps no bytes, so its full name has the digest of what
the decoded packet is encoded as. -/
theorem fullName_of_wireDecodeWith {format : Wire.WireFormat} {blob encoding : Wire.SignedBlob}
    (hdrawn : Drawn n p) (hdecode : format.decodeData input = .ok (d, blob))
    (hencode : Wire.WireFormat.initial.encodeData d = .ok encoding) :
    AnswersFullName n p (wireDecodeWith format input)
      (d.name.withDigest (Sha256.digest encoding.bytes)) := by
  have hreplaced : Replaced n p _ (withCache (replace d p n).1.2 none) d :=
    (replaced hdrawn d).withCache none
  have hvalue : (replace d p n).1.2.toData = d := hreplaced.present_eq
  have hencoded : wireEncode (withCache (replace d p n).1.2 none) (replace d p n).2
      = ((.ok encoding, keeping (withCache (replace d p n).1.2 none) encoding),
        (replace d p n).2) := by
    refine encodeOnce_new (settle_of_settled hreplaced.drawn hreplaced.settled)
      (cache_withCache _ none) ?_
    show Wire.WireFormat.initial.encodeData (replace d p n).1.2.toData = .ok encoding
    rw [hvalue, hencode]
  refine ⟨_, _, wireDecodeWith_ok hdecode p n,
    ⟨d.name.withDigest (Sha256.digest encoding.bytes), (replace d p n).2⟩, ?_, rfl⟩
  simp only [fullName, bind_edit_apply, hencoded]
  rw [← hvalue]
  rfl

end LiveData

namespace Dump

/-! ## Dumps of Data packets -/

variable {options : Options} {raw input : Bytes} {config : PacketConfig} {d : Data}
  {blob encoding : Wire.SignedBlob}

/-- What is shown of a Data packet that is no link. -/
theorem summarize_data_eq_ok
    (hdecode : (Wire.WireFormat.tlv config).decodeData input = .ok (d, blob))
    (htype : d.metaInfo.contentType ≠ .link) (hencode : Wire.encodeData d = .ok encoding) :
    summarize config .data input
      = .ok (ofData (d.name.withDigest (Sha256.digest encoding.bytes)) d) := by
  have hname : fullName d = .ok (d.name.withDigest (Sha256.digest encoding.bytes)) := by
    show (Wire.encodeData d).map _ = _
    rw [hencode]
    rfl
  rw [summarize_data hdecode htype, hname]
  rfl

/-- What a packet with a form on the wire is encoded as is decoded to its normal form only. -/
theorem eq_normalize_of_encodeData {d' : Data} (hpacket : Wire.DataPacket blob d)
    (hsize : blob.bytes.length < UInt64.size) (hform : d'.signature.HasForm)
    (hencode : Wire.encodeData d' = .ok blob) : d = d'.normalize := by
  obtain ⟨info, hinfo, rfl⟩ := Wire.encodeData_eq_ok_iff.1 hencode
  obtain ⟨info', hinfo', hdescription⟩ := Wire.exists_description hform
  cases hinfo.symm.trans hinfo'
  have hparts := Wire.length_signature_le d' info
  obtain ⟨helement, hscheme⟩ := hdescription (by omega)
  have hsignature := Wire.decodeSignature_of_description hscheme (by omega)
  have hback := Wire.decodeData_dataBlob helement hsignature hsize
  have hdecode := (Wire.decodeData_eq_ok_iff hsize).2 ⟨hpacket, [], (List.append_nil _).symm⟩
  cases hdecode.symm.trans hback
  rfl

/-- The bytes that are taken for a packet, and what the packet is encoded as. These are the same if the
bytes are what a packet in normal form is encoded as. -/
theorem exists_encoding_of_decodeData
    (hdecode : (Wire.WireFormat.tlv config).decodeData input = .ok (d, blob)) :
    (∃ rest, input = blob.bytes ++ rest) ∧ ∃ encoding, Wire.encodeData d = .ok encoding
      ∧ (∀ d' : Data, d'.signature.HasForm → d'.normalize = d' → Wire.encodeData d' = .ok blob →
        encoding = blob)
      ∧ (encoding.bytes.length ≤ config.maxPacketSize.toNat → d.signature.HasPlainYears →
        (Wire.WireFormat.tlv config).decodeData encoding.bytes = .ok (d, encoding)) := by
  obtain ⟨hmax, hread⟩ := Wire.withinSize_eq_ok_iff.1 hdecode
  have hlt := config.maxPacketSize.toNat_lt
  obtain ⟨hpacket, rest, hinput⟩ := (Wire.decodeData_eq_ok_iff (Nat.lt_of_le_of_lt hmax hlt)).1 hread
  obtain ⟨info, hinfo, hback⟩ := hpacket.exists_encoding
  have hencode : Wire.encodeData d = .ok (Wire.dataBlob d info) :=
    Wire.encodeData_eq_ok_iff.2 ⟨info, hinfo, rfl⟩
  refine ⟨⟨rest, hinput⟩, _, hencode, fun d' hform hnormal hencode' => ?_, fun hsize hyears => ?_⟩
  · rw [hinput, List.length_append] at hmax
    have hsize : blob.bytes.length < UInt64.size :=
      Nat.lt_of_le_of_lt (Nat.le_of_add_right_le hmax) hlt
    have hsame := (eq_normalize_of_encodeData hpacket hsize hform hencode').trans hnormal
    rw [← hsame] at hencode'
    exact Except.ok.inj (hencode.symm.trans hencode')
  · exact Wire.withinSize_eq_ok_iff.2 ⟨hsize, hback hyears (Nat.lt_of_le_of_lt hsize hlt)⟩

/-- A Data packet that is decoded and is no link is shown under the configuration of the call with a full
name, which has the digest of the bytes that the decoded packet is encoded as. The bytes of the input that
are taken for the packet may be others. Whatever the digest is, the full name of these bytes is shown if and
only if they have the digest of the encoding, as they do if a packet in normal form is encoded as them. The
encoding itself is shown in the same way as the input, if it can be decoded at all. The name that is shown
is what a packet answers which has decoded the input under the configuration; under the initial one, a
packet answers the full name of the bytes taken. -/
theorem fullName_shown (options : Options) (raw : Bytes) (config : PacketConfig) (input : Bytes)
    (d : Data) (blob : Wire.SignedBlob) (htakes : Takes options raw config .data input)
    (hdecode : (Wire.WireFormat.tlv config).decodeData input = .ok (d, blob))
    (htype : d.metaInfo.contentType ≠ .link) :
    ∃ encoding full, (Wire.WireFormat.tlv config).encodeData d = .ok encoding
      ∧ full = d.name.withDigest (Sha256.digest encoding.bytes)
      ∧ run options raw = ⟨0, (ofData full d).render options.json, ""⟩
      ∧ (ofData full d).ShowsFullName full
      ∧ (∃ rest, input = blob.bytes ++ rest)
      ∧ (∀ digest : Bytes → Bytes, (ofData (d.name.withDigest (digest encoding.bytes)) d).ShowsFullName
        (d.name.withDigest (digest blob.bytes)) ↔ digest encoding.bytes = digest blob.bytes)
      ∧ (∀ d' : Data, d'.signature.HasForm → d'.normalize = d' →
        (Wire.WireFormat.tlv config).encodeData d' = .ok blob → encoding = blob)
      ∧ (encoding.bytes.length ≤ config.maxPacketSize.toNat → d.signature.HasPlainYears →
        summarize config .data encoding.bytes = summarize config .data input)
      ∧ ∀ n (p : LiveData), Drawn n p →
        p.AnswersFullName n (LiveData.wireDecodeWith (.tlv config) input) full
        ∧ (input.length ≤ ({} : PacketConfig).maxPacketSize.toNat →
          p.AnswersFullName n (LiveData.wireDecode input)
            (d.name.withDigest (Sha256.digest blob.bytes))) := by
  obtain ⟨hrest, encoding, hencode, hcanonical, hback⟩ := exists_encoding_of_decodeData hdecode
  have hsummary := summarize_data_eq_ok hdecode htype hencode
  refine ⟨encoding, _, hencode, rfl, htakes.run_eq hsummary, showsFullName_iff.2 rfl, hrest,
    fun digest => showsFullName_withDigest_iff, hcanonical, fun hsize hyears => ?_,
    fun n p hdrawn => ⟨LiveData.fullName_of_wireDecodeWith hdrawn hdecode hencode, fun hsize => ?_⟩⟩
  · rw [hsummary, summarize_data_eq_ok (hback hsize hyears) htype hencode]
  · refine LiveData.fullName_of_wireDecode hdrawn ?_
    exact Wire.withinSize_eq_ok_iff.2 ⟨hsize, (Wire.withinSize_eq_ok_iff.1 hdecode).2⟩

/-- A packet with nothing but its name and a digest for a signature. -/
def digested : Data where
  name := ⟨[.generic [0x61]]⟩
  signature := .digestSha256 []

/-- What the packet is encoded as, with meta information and content, which are empty. -/
def wholePacket : Bytes :=
  [0x06, 0x10, 0x07, 0x03, 0x08, 0x01, 0x61, 0x14, 0x00, 0x15, 0x00, 0x16, 0x03, 0x1b, 0x01, 0x00,
    0x17, 0x00]

theorem fullName_shown_whole :
    Takes {} wholePacket {} .data wholePacket
      ∧ ∃ full, run {} wholePacket = ⟨0, (ofData full digested).render false, ""⟩
        ∧ (ofData full digested).ShowsFullName
          (digested.name.withDigest (Sha256.digest wholePacket)) := by
  have htakes : Takes {} wholePacket {} .data wholePacket :=
    ⟨rfl, rfl, .inr ⟨rfl, eq_ok_of_toOption (by decide)⟩⟩
  have hdecode : (Wire.WireFormat.tlv {}).decodeData wholePacket
      = .ok (digested, ⟨wholePacket, 2, 16⟩) := eq_ok_of_toOption (by decide +kernel)
  have hwhole : (Wire.WireFormat.tlv {}).encodeData digested = .ok ⟨wholePacket, 2, 16⟩ :=
    eq_ok_of_toOption (by decide +kernel)
  obtain ⟨encoding, full, -, rfl, hrun, hshows, -, -, hcanonical, -⟩ :=
    fullName_shown {} wholePacket {} wholePacket digested _ htakes hdecode (by decide)
  obtain rfl := hcanonical digested trivial rfl hwhole
  exact ⟨htakes, _, hrun, hshows⟩

/-- The same packet without meta information and content. -/
def shortPacket : Bytes :=
  [0x06, 0x0c, 0x07, 0x03, 0x08, 0x01, 0x61, 0x16, 0x03, 0x1b, 0x01, 0x00, 0x17, 0x00]

/-- The short packet is shown with the full name of the whole one. -/
theorem fullName_of_short :
    (Wire.WireFormat.tlv {}).decodeData shortPacket = .ok (digested, ⟨shortPacket, 2, 12⟩)
      ∧ run {} shortPacket = ⟨0, "Data /a\n"
        ++ "  full name: /a/sha256digest="
          ++ "97c2518e1a18ee7ca83db0c08c32f68d4731667f1d710097338e31878d68e231\n"
        ++ "  content type: Blob\n"
        ++ "  content: 0 bytes\n"
        ++ "  signature: DigestSha256 key locator: none\n", ""⟩
      ∧ (digested.name.withDigest (Sha256.digest shortPacket)).toUri = "/a/sha256digest="
        ++ "1a5a135dc705faefaf2bdd483a3cd25c05a07d930f93cfae2e36ed566df330c9" :=
  ⟨eq_ok_of_toOption (by decide +kernel), by decide +kernel, by decide +kernel⟩

end Dump

end NamedData
