import NamedData.Proofs.Wire.Data

/-!
# Control messages are read back

Names, lists of delegations, refusals, parameters and responses can always be encoded, and what they
are encoded as is decoded to their normal form: codes that have a name carry it, and the time after
which something expires is in whole milliseconds. Texts are read back from UTF-8 as they are.
-/

namespace NamedData

/-! ## Normal forms -/

/-- A delegation to the normal form of a name. -/
def Delegation.normalize (d : Delegation) : Delegation :=
  ⟨d.preference, d.name.normalize⟩

/-- Delegations as the wire can hold them: in the same order, with the same repetitions. -/
def DelegationSet.normalize (set : DelegationSet) : DelegationSet :=
  ⟨set.entries.map Delegation.normalize⟩

/-- A reason by its name, if it has one. -/
def NackReason.normalize (reason : NackReason) : NackReason :=
  ofCode reason.code

/-- A refusal as the wire can hold it. -/
def NetworkNack.normalize (nack : NetworkNack) : NetworkNack :=
  ⟨nack.reason.normalize⟩

/-- Parameters as the wire can hold them. -/
def ControlParameters.normalize (p : ControlParameters) : ControlParameters :=
  { p with
    name := p.name.map Name.normalize
    strategy := p.strategy.map Name.normalize
    expirationPeriod := p.expirationPeriod.map Time.Duration.truncate }

/-- A response as the wire can hold it. -/
def ControlResponse.normalize (r : ControlResponse) : ControlResponse :=
  { r with body := r.body.map ControlParameters.normalize }

namespace Wire

open Reader (Reads)

variable {offset : Nat} {after : Bytes} {type : UInt64} {types : List UInt64}

namespace Reader.Reads

/-! ## Fields -/

protected theorem text (field : TextField) (s : String) :
    Reads (text field type) offset (element type (Text.Utf8.encode s.toList)) after s := by
  have hdecode : decodeText field (Text.Utf8.encode s.toList) = .ok s.toList := by
    rw [decodeText, Text.Utf8.decode_encode]
  have hread : Reads (text field type) offset (element type (Text.Utf8.encode s.toList)) after
      (String.ofList s.toList) :=
    .bind_right (.blob (headerForm_header type _)) (.map String.ofList (.lift hdecode))
  rw [String.ofList_toList] at hread
  exact hread

/-- A text that may be missing. -/
theorem optional_text (field : TextField) (s : Option String) (hafter : StartsIn types after)
    (hnot : type ∉ types) :
    Reads (optional type (text field type)) offset (match s with
      | none => []
      | some s => element type (Text.Utf8.encode s.toList)) after s := by
  cases s with
  | none => exact optional_none hafter hnot
  | some s => exact optional_some (.text field s) (startsWith_element type _)

/-- A name that may be missing. -/
theorem optional_name (n : Option Name) (hafter : StartsIn types after)
    (hnot : ElementType.name ∉ types) :
    Reads (optional ElementType.name name) offset (nameElement? n) after (n.map Name.normalize) := by
  cases n with
  | none => exact optional_none hafter hnot
  | some n => exact optional_some (.name n) (startsWith_element _ _)

/-- A name in an element of its own that may be missing. -/
theorem nested_name (n : Option Name) (hafter : StartsIn types after) (hnot : type ∉ types) :
    Reads (optionalNested type name) offset (match n with
      | none => []
      | some n => element type (nameElement n)) after (n.map Name.normalize) := by
  cases n with
  | none => exact optional_none hafter hnot
  | some n => exact optional_some (.nested (headerForm_header _ _) (.name n)) (startsWith_element _ _)

/-- A number that is left out where it is the one that is taken if there is none. -/
theorem optional_code {code : UInt64} {isDefault : Prop} [Decidable isDefault]
    (hafter : StartsIn types after) (hnot : type ∉ types) :
    Reads (optionalInteger type) offset (if isDefault then [] else integerElement type code) after
      (if isDefault then none else some code) := by
  split
  · exact optional_none hafter hnot
  · exact optional_some (.integer code) (startsWith_element type _)

/-! ## Delegations -/

protected theorem delegation (d : Delegation) :
    Reads delegation offset (delegationElement d) after d.normalize :=
  .nested (headerForm_header _ _) (.bind (.integer d.preference) (.bind_right (.name d.name)
    (.pure d.normalize)))

protected theorem delegations (entries : List Delegation) :
    Reads (many delegation) offset (entries.flatMap delegationElement) []
      (entries.map Delegation.normalize) :=
  .many_map (fun _ _ => element_ne_nil _ _) fun d _ _ _ => .delegation d

/-! ## Refusals -/

protected theorem nack (refusal : NetworkNack) :
    Reads nack offset (encodeNack refusal) after refusal.normalize := by
  refine .nested (headerForm_header _ _)
    (.bind_right (.optional_code .nil List.not_mem_nil) ?_)
  have hreason : ((if refusal.reason = .unspecified then none else some refusal.reason.code).map
      NackReason.ofCode).getD .unspecified = refusal.reason.normalize := by
    split
    · next h =>
      rw [h]
      rfl
    · rfl
  rw [hreason]
  exact .pure refusal.normalize

end Reader.Reads

theorem StartsIn.text (type : UInt64) (s : Option String) : StartsIn [type] (match s with
    | none => []
    | some s => element type (Text.Utf8.encode s.toList)) := by
  cases s with
  | none => exact .inl rfl
  | some s => exact ofElement type _

theorem StartsIn.nestedName (type : UInt64) (n : Option Name) : StartsIn [type] (match n with
    | none => []
    | some n => element type (nameElement n)) := by
  cases n with
  | none => exact .inl rfl
  | some n => exact ofElement type _

theorem StartsIn.code (type code : UInt64) (isDefault : Prop) [Decidable isDefault] :
    StartsIn [type] (if isDefault then [] else integerElement type code) := by
  split
  · exact .inl rfl
  · exact ofElement type _

namespace Reader.Reads

/-! ## Parameters and responses -/

protected theorem parameters (p : ControlParameters) :
    Reads parameters offset (encodeParameters p) after p.normalize := by
  -- what can follow each field, from the last to the first
  have hexpiration := StartsIn.integerElement? ElementType.expirationPeriod
    (p.expirationPeriod.map Time.Duration.saturatedMillis)
  have hstrategy := (StartsIn.nestedName ElementType.strategy p.strategy).append hexpiration
  have hflags := (StartsIn.code ElementType.flags p.flags.bits (p.flags = .initial)).append hstrategy
  have hcost := (StartsIn.integerElement? ElementType.cost p.cost).append hflags
  have horigin := (StartsIn.integerElement? ElementType.origin p.origin).append hcost
  have hfeature := (StartsIn.integerElement? ElementType.localControlFeature
    p.localControlFeature).append horigin
  have huri := (StartsIn.text ElementType.uri p.uri).append hfeature
  have hface := (StartsIn.integerElement? ElementType.faceId p.faceId).append huri
  simp only [encodeParameters, List.append_assoc]
  refine .nested (headerForm_header _ _) ?_
  refine .bind (.optional_name p.name (hface.append .nil) (by decide)) ?_
  refine .bind (.optional_integer p.faceId (huri.append .nil) (by decide)) ?_
  refine .bind (.optional_text .uri p.uri (hfeature.append .nil) (by decide)) ?_
  refine .bind (.optional_integer p.localControlFeature (horigin.append .nil) (by decide)) ?_
  refine .bind (.optional_integer p.origin (hcost.append .nil) (by decide)) ?_
  refine .bind (.optional_integer p.cost (hflags.append .nil) (by decide)) ?_
  refine .bind (.optional_code (hstrategy.append .nil) (by decide)) ?_
  refine .bind (.nested_name p.strategy (hexpiration.append .nil) (by decide)) ?_
  refine .bind_right (.optional_integer _ .nil List.not_mem_nil) ?_
  have hbits : ((if p.flags = .initial then none else some p.flags.bits).map ForwardingFlags.mk).getD
      .initial = p.flags := by
    split
    · next h => exact h.symm
    · rfl
  rw [hbits, Time.Duration.map_ofMillis_saturatedMillis]
  exact .pure p.normalize

/-- Parameters that may be missing. -/
theorem optional_parameters (body : Option ControlParameters) :
    Reads (optional ElementType.controlParameters parameters) offset (match body with
      | none => []
      | some p => encodeParameters p) [] (body.map ControlParameters.normalize) := by
  cases body with
  | none => exact optional_none .nil List.not_mem_nil
  | some p => exact optional_some (.parameters p) (startsWith_element _ _)

protected theorem response (r : ControlResponse) :
    Reads response offset (encodeResponse r) after r.normalize := by
  simp only [encodeResponse, List.append_assoc]
  exact .nested (headerForm_header _ _) (.bind (.integer r.statusCode)
    (.bind (.text .statusText r.statusText) (.bind_right (.optional_parameters r.body)
      (.pure r.normalize))))

end Reader.Reads

/-! ## Encoding and decoding -/

/-- What is read from all of an input is decoded from it, within the size limit. -/
private theorem withinSize_value_eq {α : Type} {config : PacketConfig} {r : Reader α} {written : Bytes}
    {a : α} (h : Reads r 0 written [] a) (hsize : written.length ≤ config.maxPacketSize.toNat) :
    withinSize config r.value written = .ok a := by
  rw [withinSize_of_le hsize]
  exact h.value_whole (Nat.lt_of_le_of_lt hsize config.maxPacketSize.toNat_lt)

theorem decodeDelegations_encode {set : DelegationSet}
    (h : (encodeDelegations set).length < UInt64.size) :
    decodeDelegations (encodeDelegations set) = .ok set.normalize := by
  have hread := (Reads.delegations set.entries).value_whole h
  rw [decodeDelegations]
  exact congrArg (DelegationSet.mk <$> ·) hread

/-- What a decoder gives back for what an encoder has written within the size limit. -/
def ReadsBack {α : Type} (config : PacketConfig) (encode : α → Except EncodingError Bytes)
    (decode : Bytes → Except DecodingError α) (normalize : α → α) : Prop :=
  ∀ x, ∃ bytes, encode x = .ok bytes
    ∧ (bytes.length ≤ config.maxPacketSize.toNat → decode bytes = .ok (normalize x))

/-- Names, delegations, refusals, parameters and responses can always be encoded, and are decoded to
their normal form if the encoding is within the size limit. -/
theorem small_formats_round_trip (config : PacketConfig) :
    ReadsBack config (WireFormat.tlv config).encodeName (WireFormat.tlv config).decodeName
        Name.normalize
      ∧ ReadsBack config (WireFormat.tlv config).encodeDelegations
        (WireFormat.tlv config).decodeDelegations DelegationSet.normalize
      ∧ ReadsBack config (WireFormat.tlv config).encodeNack (WireFormat.tlv config).decodeNack
        NetworkNack.normalize
      ∧ ReadsBack config (WireFormat.tlv config).encodeParameters
        (WireFormat.tlv config).decodeParameters ControlParameters.normalize
      ∧ ReadsBack config (WireFormat.tlv config).encodeResponse
        (WireFormat.tlv config).decodeResponse ControlResponse.normalize := by
  refine ⟨fun n => ⟨_, rfl, withinSize_value_eq (.name n)⟩, fun set => ⟨_, rfl, fun hsize => ?_⟩,
    fun nack => ⟨_, rfl, withinSize_value_eq (.nack nack)⟩,
    fun p => ⟨_, rfl, withinSize_value_eq (.parameters p)⟩,
    fun r => ⟨_, rfl, withinSize_value_eq (.response r)⟩⟩
  show withinSize config decodeDelegations _ = _
  rw [withinSize_of_le hsize]
  exact decodeDelegations_encode (Nat.lt_of_le_of_lt hsize config.maxPacketSize.toNat_lt)

/-- A response with a text beyond ASCII and parameters that are not in normal form. -/
def smallResponse : ControlResponse where
  statusCode := 200
  statusText := "grün"
  body := some {
    name := some ⟨[⟨.other 8, [0x61]⟩]⟩
    uri := some ""
    flags := ⟨6⟩
    strategy := some ⟨[]⟩
    expirationPeriod := some ⟨1500000⟩ }

/-- What `smallResponse` is encoded as. -/
def smallResponseBytes : Bytes :=
  [0x65, 0x1d, 0x66, 0x01, 0xc8, 0x67, 0x05, 0x67, 0x72, 0xc3, 0xbc, 0x6e, 0x68, 0x11, 0x07, 0x03, 0x08,
    0x01, 0x61, 0x72, 0x00, 0x6c, 0x01, 0x06, 0x6b, 0x02, 0x07, 0x00, 0x6d, 0x01, 0x01]

theorem small_formats_round_trip_response :
    (WireFormat.tlv {}).encodeResponse smallResponse = .ok smallResponseBytes
      ∧ (WireFormat.tlv {}).decodeResponse smallResponseBytes = .ok smallResponse.normalize := by
  have hbytes : encodeResponse smallResponse = smallResponseBytes := by decide +kernel
  obtain ⟨bytes, hencode, hdecode⟩ := (small_formats_round_trip {}).2.2.2.2 smallResponse
  cases hencode
  rw [hbytes] at hdecode
  exact ⟨congrArg Except.ok hbytes, hdecode (by decide)⟩

end Wire

end NamedData
