import NamedData.Proofs.Wire.Acceptance

/-!
# Excludes are read back

The entries of an exclude are written one element each, under the type of the component or that of the
wildcard, which is not kept apart from the types of components. So a component of this type becomes the
wildcard: there are as many entries as before, and all others are as they were (`Exclude.asRead`). An
exclude means the same as before if it has no such component. The link of the Interest, which may be any
bytes, does not come into it.
-/

namespace NamedData

/-! ## Excludes as they are read -/

/-- The types of all components are as type numbers give them. -/
def Exclude.HasNumberedTypes (e : Exclude) : Prop :=
  ∀ c, .component c ∈ e.entries → ∃ code, c.type = .ofCode code

theorem ComponentType.normalize_eq_self_iff {type : ComponentType} :
    type.normalize = type ↔ ∃ code, type = .ofCode code := by
  constructor
  · intro h
    exact ⟨type.code, h.symm⟩
  · rintro ⟨code, rfl⟩
    rw [normalize, code_ofCode]

theorem Exclude.length_asRead (e : Exclude) : e.asRead.entries.length = e.entries.length :=
  List.length_map _

/-- An entry is read as it is, unless it is a component of the type of the wildcard. -/
theorem ExcludeEntry.asRead_eq_self_iff {entry : ExcludeEntry}
    (h : ∀ c, entry = .component c → ∃ code, c.type = .ofCode code) :
    entry.asRead = entry ↔ ∀ c, entry = .component c → c.type.code ≠ Wire.ElementType.any := by
  cases entry with
  | any => exact iff_of_true rfl nofun
  | component c =>
    have hnormal : c.normalize = c := by
      rw [Component.normalize, ComponentType.normalize_eq_self_iff.2 (h c rfl)]
    by_cases hany : c.type.code = Wire.ElementType.any
    · rw [asRead, if_pos hany]
      exact iff_of_false nofun fun hother => hother c rfl hany
    · rw [asRead, if_neg hany, hnormal]
      refine iff_of_true rfl ?_
      rintro c' ⟨⟩
      exact hany

/-- An exclude is read as it is, unless it has a component of the type of the wildcard. -/
theorem Exclude.asRead_eq_self_iff {e : Exclude} (h : e.HasNumberedTypes) :
    e.asRead = e ↔ ∀ c, .component c ∈ e.entries → c.type.code ≠ Wire.ElementType.any := by
  have hentry (entry : ExcludeEntry) (hmem : entry ∈ e.entries) :=
    entry.asRead_eq_self_iff fun c hc => h c (hc ▸ hmem)
  have hall : e.asRead = e ↔ ∀ entry ∈ e.entries, entry.asRead = entry := by
    obtain ⟨entries⟩ := e
    rw [asRead, Exclude.mk.injEq]
    have hself := @List.map_inj_left _ _ entries ExcludeEntry.asRead id
    rwa [List.map_id] at hself
  rw [hall]
  constructor
  · intro hread c hmem
    exact (hentry _ hmem).1 (hread _ hmem) c rfl
  · intro hother entry hmem
    refine (hentry entry hmem).2 ?_
    rintro c rfl
    exact hother c hmem

/-! ## Encoding and decoding -/

namespace Wire

/-- Of an Interest that is encoded within the size limit, whatever its link is, the exclude is decoded
with each component of the type of the wildcard turned into the wildcard. So there are as many entries,
and if no component has that type, and types that have names are given by them, it is the same exclude
and contains the same components. The encoding is decoded if the link is one whole Data packet or
missing. -/
theorem exclude_of_encodeInterest (config : PacketConfig) (random : Nat → UInt8) (i : Interest)
    (b : SignedBlob) (hencode : (WireFormat.tlv config).encodeInterest random i = .ok b)
    (hsize : b.bytes.length ≤ config.maxPacketSize.toNat) :
    (WholeLink i → ∃ i', (WireFormat.tlv config).decodeInterest b.bytes = .ok (i', b))
      ∧ ∀ i' blob, (WireFormat.tlv config).decodeInterest b.bytes = .ok (i', blob) →
        i'.exclude = i.exclude.asRead
          ∧ i'.exclude.entries.length = i.exclude.entries.length
          ∧ (i.exclude.HasNumberedTypes → (i'.exclude = i.exclude ↔ NoWildcardComponent i))
          ∧ (i.exclude.HasNumberedTypes → NoWildcardComponent i →
            ∀ c, i'.exclude.contains c = i.exclude.contains c) := by
  have hlt : b.bytes.length < UInt64.size := Nat.lt_of_le_of_lt hsize config.maxPacketSize.toNat_lt
  constructor
  · intro hlink
    exact ⟨_, withinSize_eq_ok_iff.2
      ⟨hsize, decodeInterest_asRead_of_encodeInterest hlink hencode hlt⟩⟩
  · intro i' blob hdecode
    obtain ⟨-, hread⟩ := withinSize_eq_ok_iff.1 hdecode
    obtain ⟨-, -, hexclude, -⟩ := decodeInterest_of_encodeInterest_eq_ok hencode hlt hread
    rw [hexclude]
    refine ⟨rfl, i.exclude.length_asRead, Exclude.asRead_eq_self_iff, fun htypes hnone c => ?_⟩
    rw [(Exclude.asRead_eq_self_iff htypes).2 hnone]

/-- The exclude of `smallInterest` comes back. -/
theorem exclude_of_encodeInterest_small :
    ∃ i', (WireFormat.tlv {}).decodeInterest smallInterestBlob.bytes = .ok (i', smallInterestBlob)
      ∧ i'.exclude = smallInterest.exclude ∧ i'.exclude.contains (.generic [0x61]) = true := by
  obtain ⟨hdecodes, hexclude⟩ := exclude_of_encodeInterest {} (fun _ => 7) smallInterest
    smallInterestBlob rfl (by decide)
  obtain ⟨i', hdecode⟩ := hdecodes (.inr ⟨[], [0x06, 0x00], headerForm_header _ 0, by decide, rfl⟩)
  obtain ⟨hread, -⟩ := hexclude i' _ hdecode
  refine ⟨i', hdecode, ?_, ?_⟩
  · rw [hread]
    rfl
  · rw [hread]
    decide

/-- An Interest that excludes one component, which has the type of the wildcard. -/
def wildcardTyped : Interest where
  name := ⟨[.generic [0x61]]⟩
  nonce := [1, 2, 3, 4]
  exclude := ⟨[.component ⟨.ofCode 19, [0x61]⟩]⟩

/-- What `wildcardTyped` is encoded as. -/
def wildcardTypedBlob : SignedBlob where
  bytes := [0x05, 0x14, 0x07, 0x03, 0x08, 0x01, 0x61, 0x09, 0x07, 0x10, 0x03, 0x13, 0x01, 0x61, 0x12,
    0x00, 0x0a, 0x04, 0x01, 0x02, 0x03, 0x04]
  signedBegin := 4
  signedEnd := 4

/-- A component that it does not exclude is excluded once it has been decoded again. -/
theorem wildcardTyped_widened :
    wildcardTyped.exclude.HasNumberedTypes
      ∧ (WireFormat.tlv {}).encodeInterest (fun _ => 0) wildcardTyped = .ok wildcardTypedBlob
      ∧ wildcardTyped.exclude.contains (.generic [0x62]) = false
      ∧ ∃ i', (WireFormat.tlv {}).decodeInterest wildcardTypedBlob.bytes = .ok (i', wildcardTypedBlob)
        ∧ i'.exclude.contains (.generic [0x62]) = true := by
  refine ⟨?_, rfl, by decide, { wildcardTyped with exclude := ⟨[.any]⟩ },
    eq_ok_of_toOption (by decide +kernel), by decide⟩
  intro c hmem
  obtain rfl : c = ⟨.ofCode 19, [0x61]⟩ := by simpa [wildcardTyped] using hmem
  exact ⟨19, rfl⟩

end Wire

end NamedData
