import NamedData.Proofs.Text.Utf8
import NamedData.Proofs.Time.Instant
import NamedData.Proofs.Wire.Name
import NamedData.Wire.Signature

/-!
# Signatures are read back

The two elements of a signature are read as its normal form if it has one on the wire: the key
locator does not hold the key itself, a validity period is unlimited or has bounds in the years 0 to
9999, and the description of an unknown scheme is one element that starts with the number of the
scheme. Bounds are read back to the second.
-/

namespace NamedData

/-! ## Normal forms -/

/-- A validity period with bounds in whole seconds. -/
def ValidityPeriod.truncate (period : ValidityPeriod) : ValidityPeriod :=
  ⟨period.bounds.map fun (first, last) => (first.truncate, last.truncate)⟩

/-- A validity period whose bounds, if there are any, can be written without a sign. -/
def ValidityPeriod.IsCompact (period : ValidityPeriod) : Prop :=
  ∀ first last, period.bounds = some (first, last) → first.IsCompact ∧ last.IsCompact

/-- A validity period whose bounds, if there are any, can be written without a sign, with leap seconds
anywhere. -/
def ValidityPeriod.IsUnsigned (period : ValidityPeriod) : Prop :=
  ∀ first last, period.bounds = some (first, last) → first.IsUnsigned ∧ last.IsUnsigned

/-- A validity period as it is read. -/
def ValidityPeriod.asRead (period : ValidityPeriod) : ValidityPeriod :=
  ⟨period.bounds.map fun (first, last) => (first.asRead, last.asRead)⟩

/-- A signature as the wire can hold it. -/
def Signature.normalize : Signature → Signature
  | digestSha256 bytes => digestSha256 bytes
  | hmacWithSha256 bytes k => hmacWithSha256 bytes k.normalize
  | sha256WithRsa bytes k period => sha256WithRsa bytes k.normalize period.truncate
  | sha256WithEcdsa bytes k period => sha256WithEcdsa bytes k.normalize period.truncate
  | generic bytes info typeCode => generic bytes info typeCode

/-- A key locator that has a form on the wire. -/
def KeyLocator.HasForm : KeyLocator → Prop
  | absent => True
  | name _ _ => True
  | digest _ => True
  | key _ => False
  | certificate _ => False

/-- The bytes are the description of an unknown scheme: one element whose value starts with the
number of the scheme, in any form of either. -/
def Wire.DescribesUnknown (code : UInt64) (info : Bytes) : Prop :=
  SignatureType.ofCode code = .other code
    ∧ ∃ digits number rest, Integer.decode? digits = some code
      ∧ IsElementOf ElementType.signatureType digits number
      ∧ IsElementOf ElementType.signatureInfo (number ++ rest) info

/-- A signature as it is read. -/
def Signature.asRead : Signature → Signature
  | digestSha256 bytes => digestSha256 bytes
  | hmacWithSha256 bytes k => hmacWithSha256 bytes k.normalize
  | sha256WithRsa bytes k period => sha256WithRsa bytes k.normalize period.asRead
  | sha256WithEcdsa bytes k period => sha256WithEcdsa bytes k.normalize period.asRead
  | generic bytes info typeCode => generic bytes info typeCode

/-- A signature that has a form on the wire from which it is read back. -/
def Signature.HasForm : Signature → Prop
  | digestSha256 _ => True
  | hmacWithSha256 _ k => k.HasForm
  | sha256WithRsa _ k period => k.HasForm ∧ period.IsCompact
  | sha256WithEcdsa _ k period => k.HasForm ∧ period.IsCompact
  | generic _ info typeCode => ∃ code, typeCode = some code ∧ Wire.DescribesUnknown code info

/-- A signature that has a form on the wire which can be read. -/
def Signature.HasReadableForm : Signature → Prop
  | digestSha256 _ => True
  | hmacWithSha256 _ k => k.HasForm
  | sha256WithRsa _ k period => k.HasForm ∧ period.IsUnsigned
  | sha256WithEcdsa _ k period => k.HasForm ∧ period.IsUnsigned
  | generic _ info typeCode => ∃ code, typeCode = some code ∧ Wire.DescribesUnknown code info

theorem ValidityPeriod.IsCompact.isUnsigned {period : ValidityPeriod} (h : period.IsCompact) :
    period.IsUnsigned :=
  fun first last hbounds =>
    ⟨(h first last hbounds).1.isUnsigned, (h first last hbounds).2.isUnsigned⟩

theorem ValidityPeriod.IsCompact.asRead_eq {period : ValidityPeriod} (h : period.IsCompact) :
    period.asRead = period.truncate := by
  obtain ⟨_ | ⟨first, last⟩⟩ := period
  · rfl
  · obtain ⟨hfirst, hlast⟩ := h first last rfl
    show ValidityPeriod.mk (some (first.asRead, last.asRead)) = _
    rw [hfirst.asRead_eq, hlast.asRead_eq]
    rfl

/-- A signature that is read back has a form that can be read, and is read as its normal form. -/
theorem Signature.HasForm.asRead_eq {d : Signature} (h : d.HasForm) :
    d.HasReadableForm ∧ d.asRead = d.normalize := by
  cases d with
  | digestSha256 | hmacWithSha256 | generic => exact ⟨h, rfl⟩
  | sha256WithRsa bytes k period =>
    exact ⟨⟨h.1, h.2.isUnsigned⟩, congrArg (Signature.sha256WithRsa bytes _) h.2.asRead_eq⟩
  | sha256WithEcdsa bytes k period =>
    exact ⟨⟨h.1, h.2.isUnsigned⟩, congrArg (Signature.sha256WithEcdsa bytes _) h.2.asRead_eq⟩

namespace Wire

open Reader (Reads)

variable {offset : Nat} {after : Bytes} {type : UInt64} {types : List UInt64}

/-! ## Writing -/

theorem exists_keyLocatorElement? {k : KeyLocator} (h : k.HasForm) (type : UInt64) :
    ∃ written, keyLocatorElement? type k = .ok written := by
  cases k with
  | absent | name | digest => exact ⟨_, rfl⟩
  | key | certificate => exact h.elim

theorem StartsIn.validityElement? (period : ValidityPeriod) :
    StartsIn [ElementType.validityPeriod] (validityElement? period) := by
  obtain ⟨_ | ⟨first, last⟩⟩ := period
  · exact .inl rfl
  · exact ofElement _ _

/-! ## Times -/

theorem decodeTime_timeValue {t : Time.Instant} (h : t.IsUnsigned) :
    decodeTime (timeValue t) = .ok t.asRead := by
  have htext : decodeText .validityTime (timeValue t) = .ok t.write := by
    rw [decodeText, timeValue, Text.Utf8.decode_encode]
  simp only [decodeTime, htext, Time.Instant.parse_write_asRead h, bind, Except.bind]

namespace Reader.Reads

protected theorem time {t : Time.Instant} (h : t.IsUnsigned) :
    Reads (time type) offset (element type (timeValue t)) after t.asRead :=
  .bind_right (.blob (headerForm_header type _)) (.lift (decodeTime_timeValue h))

/-- An unlimited period is left out. -/
protected theorem validity {period : ValidityPeriod} (h : period.IsUnsigned)
    (hafter : StartsIn types after) (hnot : ElementType.validityPeriod ∉ types) :
    Reads validity offset (validityElement? period) after period.asRead := by
  obtain ⟨_ | ⟨first, last⟩⟩ := period
  · exact .bind_right (optional_none hafter hnot) (.pure _)
  · obtain ⟨hfirst, hlast⟩ := h first last rfl
    refine .bind_right (optional_some (.nested (headerForm_header _ _) ?_) (startsWith_element _ _))
      (.pure _)
    exact .bind (.time hfirst) (.bind_right (.time hlast) (.pure (first.asRead, last.asRead)))

protected theorem keyLocator {k : KeyLocator} {written : Bytes}
    (h : keyLocatorElement? ElementType.keyLocator k = .ok written) (hafter : StartsIn types after)
    (hnot : ElementType.keyLocator ∉ types) :
    Reads keyLocator offset written after k.normalize := by
  refine .bind_right (.keyLocatorElement? h hafter hnot) ?_
  rw [getD_normalize]
  exact .pure _

/-! ## Schemes -/

/-- The fields of a scheme with a private key. -/
theorem keyAndValidity {k : KeyLocator} {period : ValidityPeriod} {locator : Bytes}
    (hlocator : keyLocatorElement? ElementType.keyLocator k = .ok locator)
    (hperiod : period.IsUnsigned) (make : KeyLocator → ValidityPeriod → Signature) :
    Reads (do
        let k ← keyLocator
        let period ← validity
        tail
        return make k period)
      offset (locator ++ validityElement? period) [] (make k.normalize period.asRead) := by
  have hvalidity := StartsIn.validityElement? period
  refine .bind (.keyLocator hlocator (hvalidity.append .nil) (by decide)) ?_
  exact .bind_right (.validity hperiod .nil List.not_mem_nil) (.bind_right .tail (.pure _))

/-- The description of a named scheme: its number, then what is read by the number. -/
theorem scheme_named {next : UInt64 → Reader Signature} {type : SignatureType}
    {locator validity : Bytes} {d : Signature}
    (h : ∀ offset, Reads (next type.code) offset (locator ++ validity) [] d) :
    Reads (do
        let valueEnd ← enter ElementType.signatureInfo
        within valueEnd do
          let code ← integer ElementType.signatureType
          next code)
      offset (schemeElement type locator validity) after d := by
  refine .bind (.enter (headerForm_header _ _)) (.within ?_)
  rw [List.append_assoc]
  exact .bind (.integer type.code) (h _)

/-- The description of an unknown scheme, of which only the number is read. -/
theorem scheme_unknown {code : UInt64} {info : Bytes} (h : DescribesUnknown code info)
    (hsize : info.length < UInt64.size) :
    (scheme info).value info = .ok (.generic [] info (some code)) := by
  obtain ⟨hunknown, digits, number, rest, hcode, ⟨typeHead, htype, -, rfl⟩, head, hhead, -, hinfo⟩ := h
  -- the reader stops after the number, inside the element, and `rest` stays unread
  have henter : Reads (enter ElementType.signatureInfo) 0 head ((typeHead ++ digits) ++ (rest ++ []))
      (0 + head.length + ((typeHead ++ digits) ++ rest).length) := by
    rw [← List.append_assoc]
    exact .enter hhead
  have hread : Reads (scheme info) 0 (head ++ (typeHead ++ digits)) (rest ++ [])
      (.generic [] info (some code)) := by
    refine .bind henter (.within_part (.bind_right (integer_form htype hcode) ?_))
    rw [hunknown]
    exact .pure _
  have hwhole : head ++ (typeHead ++ digits) ++ (rest ++ []) = info := by
    rw [hinfo, List.append_nil, List.append_assoc]
  have hvalue := hread.value_eq (by rw [hwhole]; exact hsize)
  rw [hwhole] at hvalue
  exact hvalue

end Reader.Reads

/-- A signature that has a form on the wire is described by an element, which is read as the
signature without its bytes. -/
theorem exists_description_asRead {d : Signature} (h : d.HasReadableForm) :
    ∃ info, encodeSignatureInfo d = .ok info ∧ (info.length < UInt64.size →
      IsElement ElementType.signatureInfo info
        ∧ (Reader.scheme info).value info = .ok (d.asRead.withBytes [])) := by
  cases d with
  | digestSha256 bytes =>
    refine ⟨_, rfl, fun hsize => ⟨isElement_element hsize, ?_⟩⟩
    refine Reads.value_whole (Reads.scheme_named fun _ => ?_) hsize
    exact .bind_right .tail (.pure _)
  | hmacWithSha256 bytes k =>
    obtain ⟨locator, hlocator⟩ := exists_keyLocatorElement? h ElementType.keyLocator
    refine ⟨_, by rw [encodeSignatureInfo, hlocator]; rfl,
      fun hsize => ⟨isElement_element hsize, ?_⟩⟩
    refine Reads.value_whole (Reads.scheme_named fun _ => ?_) hsize
    exact .bind (.keyLocator hlocator .nil List.not_mem_nil) (.bind_right .tail (.pure _))
  | sha256WithRsa bytes k period =>
    obtain ⟨locator, hlocator⟩ := exists_keyLocatorElement? h.1 ElementType.keyLocator
    refine ⟨_, by rw [encodeSignatureInfo, hlocator]; rfl,
      fun hsize => ⟨isElement_element hsize, ?_⟩⟩
    exact Reads.value_whole (Reads.scheme_named fun _ =>
      Reads.keyAndValidity hlocator h.2 (.sha256WithRsa [])) hsize
  | sha256WithEcdsa bytes k period =>
    obtain ⟨locator, hlocator⟩ := exists_keyLocatorElement? h.1 ElementType.keyLocator
    refine ⟨_, by rw [encodeSignatureInfo, hlocator]; rfl,
      fun hsize => ⟨isElement_element hsize, ?_⟩⟩
    exact Reads.value_whole (Reads.scheme_named fun _ =>
      Reads.keyAndValidity hlocator h.2 (.sha256WithEcdsa [])) hsize
  | generic bytes info typeCode =>
    obtain ⟨code, rfl, hinfo⟩ := h
    -- an empty description would be refused
    have hnonempty : ¬ info.isEmpty = true := by
      obtain ⟨-, digits, number, rest, -, -, helement⟩ := hinfo
      rw [List.isEmpty_iff]
      exact helement.startsWith.ne_nil
    refine ⟨info, if_neg hnonempty, fun hsize => ⟨?_, Reads.scheme_unknown hinfo hsize⟩⟩
    obtain ⟨-, digits, number, rest, -, -, helement⟩ := hinfo
    exact ⟨_, helement⟩

theorem exists_description {d : Signature} (h : d.HasForm) :
    ∃ info, encodeSignatureInfo d = .ok info ∧ (info.length < UInt64.size →
      IsElement ElementType.signatureInfo info
        ∧ (Reader.scheme info).value info = .ok (d.normalize.withBytes [])) := by
  rw [← h.asRead_eq.2]
  exact exists_description_asRead h.asRead_eq.1

/-- A signature is decoded from the description of its scheme and the element of its bytes. -/
theorem decodeSignature_of_scheme {s : Signature} {info bytes : Bytes}
    (hinfo : (Reader.scheme info).value info = .ok s)
    (hsize : (element ElementType.signatureValue bytes).length < UInt64.size) :
    decodeSignature info (element ElementType.signatureValue bytes) = .ok (s.withBytes bytes) := by
  have hbytes : (Reader.blob ElementType.signatureValue).value
      (element ElementType.signatureValue bytes) = .ok bytes :=
    Reads.value_whole (.blob (headerForm_header _ _)) hsize
  simp only [decodeSignature, hinfo, hbytes, bind, Except.bind]
  rfl

/-- A signature is decoded as it is read from its two elements. -/
theorem decodeSignature_asRead {d : Signature} {info : Bytes}
    (hinfo : (Reader.scheme info).value info = .ok (d.asRead.withBytes []))
    (hsize : (element ElementType.signatureValue d.bytes).length < UInt64.size) :
    decodeSignature info (element ElementType.signatureValue d.bytes) = .ok d.asRead := by
  rw [decodeSignature_of_scheme hinfo hsize]
  cases d <;> rfl

/-- A signature in normal form is decoded from its two elements. -/
theorem decodeSignature_of_description {d : Signature} {info : Bytes}
    (hinfo : (Reader.scheme info).value info = .ok (d.normalize.withBytes []))
    (hsize : (element ElementType.signatureValue d.bytes).length < UInt64.size) :
    decodeSignature info (element ElementType.signatureValue d.bytes) = .ok d.normalize := by
  rw [decodeSignature_of_scheme hinfo hsize]
  cases d <;> rfl

end Wire

end NamedData
