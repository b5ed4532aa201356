import NamedData.Dump.Run
import NamedData.Proofs.Wire.Framing

/-!
# Kinds of packets

Decoders take an element of the type of their kind, with its type number in any form. Without a given kind the
type is read from the first bytes, but of the two widest forms only the first byte is seen (`outerType_wide`),
which is the type of no packet. So a packet is known by its kind unless its type number has such a form, and
what is known as a packet of one kind is a packet of no other (`detectKind_of_decoded`).
-/

namespace NamedData.Dump

open Wire

/-! ## Decoders -/

namespace PacketKind

/-- The type of the element around a packet. -/
def type : PacketKind → UInt64
  | interest => ElementType.interest
  | data | link => ElementType.data
  | nack => ElementType.networkNack
  | controlParameters => ElementType.controlParameters
  | controlResponse => ElementType.controlResponse

/-- The decoder for packets of the kind has a result. -/
def IsDecoded (config : PacketConfig) (input : Bytes) : PacketKind → Prop
  | interest => ∃ p, (WireFormat.tlv config).decodeInterest input = .ok p
  | data | link => ∃ p, (WireFormat.tlv config).decodeData input = .ok p
  | nack => ∃ refusal, (WireFormat.tlv config).decodeNack input = .ok refusal
  | controlParameters => ∃ p, (WireFormat.tlv config).decodeParameters input = .ok p
  | controlResponse => ∃ r, (WireFormat.tlv config).decodeResponse input = .ok r

end PacketKind

variable {config : PacketConfig} {kind : PacketKind} {input rest : Bytes} {type : UInt64} {first : UInt8}

theorem startsWith_of_frames {α : Type} {decode : Bytes → Except Wire.DecodingError α}
    {taken : Bytes → Bytes} (h : Wire.Frames config type decode taken)
    (hdecoded : ∃ a, decode input = .ok a) : StartsWith type input := by
  obtain ⟨a, hdecode⟩ := hdecoded
  obtain ⟨e, rest, rfl, rfl, -⟩ := h input a hdecode
  exact e.startsWith.append rest

/-- What is decoded starts with the type of its kind. -/
theorem PacketKind.IsDecoded.startsWith (h : kind.IsDecoded config input) :
    StartsWith kind.type input := by
  cases kind with
  | interest => exact startsWith_of_frames (Wire.frames_decodeInterest config) h
  | data => exact startsWith_of_frames (Wire.frames_decodeData config) h
  | link => exact startsWith_of_frames (Wire.frames_decodeData config) h
  | nack => exact startsWith_of_frames (Wire.frames_decodeNack config) h
  | controlParameters => exact startsWith_of_frames (Wire.frames_decodeParameters config) h
  | controlResponse => exact startsWith_of_frames (Wire.frames_decodeResponse config) h

/-! ## The type in the first bytes -/

/-- The byte announces a number of four or eight bytes. -/
def IsWideMark (first : UInt8) : Prop :=
  first = 254 ∨ first = 255

instance (first : UInt8) : Decidable (IsWideMark first) :=
  inferInstanceAs (Decidable (first = 254 ∨ first = 255))

theorem outerType_narrow (h : first ≠ 253) : outerType (first :: rest) = .ok first.toUInt64 := by
  unfold outerType
  split <;> simp_all

theorem outerType_wide (h : IsWideMark first) : outerType (first :: rest) = .ok first.toUInt64 :=
  outerType_narrow (by rcases h with rfl | rfl <;> decide)

/-- A number is read in each of its forms of up to two bytes. -/
theorem outerType_of_startsWith (h : StartsWith type (first :: rest)) (hfirst : ¬ IsWideMark first) :
    outerType (first :: rest) = .ok type := by
  obtain ⟨form, after, hform, heq⟩ := h
  cases hform with
  | narrow hnarrow =>
    obtain ⟨rfl, -⟩ : first = UInt8.ofNat type.toNat ∧ rest = after := List.cons.inj heq
    have hbyte : (UInt8.ofNat type.toNat).toNat = type.toNat := by
      rw [UInt8.toNat_ofNat', Nat.mod_eq_of_lt (by omega)]
    have hmark : UInt8.ofNat type.toNat ≠ 253 := by
      intro h
      rw [h] at hbyte
      exact absurd hnarrow (hbyte ▸ by decide)
    rw [outerType_narrow hmark]
    exact congrArg Except.ok (UInt64.toNat_inj.1 (by rw [UInt8.toNat_toUInt64, hbyte]))
  | @wide mark width hwidth hlt =>
    obtain ⟨rfl, rfl⟩ : first = mark ∧ rest = Bytes.bigEndian width type.toNat ++ after :=
      List.cons.inj heq
    -- the form of two bytes is the only one that is left
    obtain ⟨rfl, rfl⟩ : first = 253 ∧ width = 2 := by
      unfold Reader.wideWidth? at hwidth
      unfold IsWideMark at hfirst
      grind
    have hlt : type.toNat < 65536 := hlt
    show Except.ok _ = _
    refine congrArg Except.ok (UInt64.toNat_inj.1 ?_)
    have hbase : (256 : UInt64).toNat = 256 := rfl
    simp only [UInt64.toNat_add, UInt64.toNat_mul, UInt8.toNat_toUInt64, UInt8.toNat_ofNat', hbase]
    omega

/-! ## Kinds -/

theorem kindOfType_type (hkind : kind ≠ .link) : kindOfType kind.type = .ok kind := by
  cases kind with
  | link => exact absurd rfl hkind
  | _ => rfl

theorem kindOfType_wide (h : IsWideMark first) :
    kindOfType first.toUInt64 = .error (.unknownType first.toUInt64) := by
  rcases h with rfl | rfl <;> rfl

/-- The kind of a packet is found out if its type number has a form of one or three bytes. -/
theorem detectKind_eq (hkind : kind ≠ .link) (h : kind.IsDecoded config (first :: rest)) :
    detectKind (first :: rest) =
      if IsWideMark first then .error (.unknownType first.toUInt64) else .ok kind := by
  unfold detectKind
  split_ifs with hfirst
  · rw [outerType_wide hfirst]
    exact kindOfType_wide hfirst
  · rw [outerType_of_startsWith h.startsWith hfirst]
    exact kindOfType_type hkind

/-- A packet's kind is found out from the packet if and only if its type number is not written in one of
the two widest forms, whose first byte is then taken for the type; and what is found to be of a kind is no
packet of any other kind. Links are Data packets and are found to be these. -/
theorem detectKind_of_decoded (config : PacketConfig) (kind : PacketKind) (hkind : kind ≠ .link)
    (input : Bytes) :
    (kind.IsDecoded config input → ∃ first rest, input = first :: rest
        ∧ (detectKind input = .ok kind ↔ ¬ IsWideMark first)
        ∧ (IsWideMark first → detectKind input = .error (.unknownType first.toUInt64)))
      ∧ (detectKind input = .ok kind →
        ∀ other, other ≠ .link → other ≠ kind → ¬ other.IsDecoded config input) := by
  constructor
  · intro hdecoded
    obtain ⟨first, rest, rfl⟩ := List.exists_cons_of_ne_nil hdecoded.startsWith.ne_nil
    rw [detectKind_eq hkind hdecoded]
    by_cases hfirst : IsWideMark first <;> simp [hfirst]
  · intro hdetected other hother hne hdecoded
    obtain ⟨first, rest, rfl⟩ := List.exists_cons_of_ne_nil hdecoded.startsWith.ne_nil
    rw [detectKind_eq hother hdecoded] at hdetected
    split_ifs at hdetected
    exact hne (Except.ok.inj hdetected)

/-- A refusal without a reason, its type number in three bytes and in five. -/
theorem detectKind_of_decoded_refusal :
    detectKind [0xfd, 0x03, 0x20, 0x00] = .ok .nack
      ∧ detectKind [0xfe, 0x00, 0x00, 0x03, 0x20, 0x00] = .error (.unknownType 0xfe)
      ∧ ¬ PacketKind.data.IsDecoded {} [0xfd, 0x03, 0x20, 0x00] := by
  have hshort : PacketKind.nack.IsDecoded {} [0xfd, 0x03, 0x20, 0x00] :=
    ⟨⟨.unspecified⟩, eq_ok_of_toOption (by decide +kernel)⟩
  have hwide : PacketKind.nack.IsDecoded {} [0xfe, 0x00, 0x00, 0x03, 0x20, 0x00] :=
    ⟨⟨.unspecified⟩, eq_ok_of_toOption (by decide +kernel)⟩
  obtain ⟨hfound, hother⟩ := detectKind_of_decoded {} .nack nofun [0xfd, 0x03, 0x20, 0x00]
  obtain ⟨hfound', -⟩ := detectKind_of_decoded {} .nack nofun [0xfe, 0x00, 0x00, 0x03, 0x20, 0x00]
  obtain ⟨first, -, ⟨⟩, hiff, -⟩ := hfound hshort
  obtain ⟨first', -, ⟨⟩, -, hmissed⟩ := hfound' hwide
  have hdetected := hiff.2 (by decide)
  exact ⟨hdetected, hmissed (by decide), hother hdetected .data nofun nofun⟩

/-- A packet with its type number in five bytes is decoded, and its kind is not found out from it. -/
theorem wide_refusal_not_detected :
    PacketKind.nack.IsDecoded {} [0xfe, 0x00, 0x00, 0x03, 0x20, 0x00]
      ∧ detectKind [0xfe, 0x00, 0x00, 0x03, 0x20, 0x00] ≠ .ok .nack :=
  ⟨⟨⟨.unspecified⟩, eq_ok_of_toOption (by decide +kernel)⟩, by decide⟩

end NamedData.Dump
