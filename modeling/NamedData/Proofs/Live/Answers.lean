import NamedData.Proofs.Live.Data
import NamedData.Proofs.Matching
import NamedData.Proofs.Wire.Reads

/-!
# Live packets answer Interests

A live packet is encoded while it is matched, if its digest is asked for. The matcher asks for it at most
once, so that a live packet answers as its value does under the encoding that the packet then has
(`answers_eq`). What is known of the matcher of values so holds of live packets too (`matchesData_decides`).
-/

namespace NamedData

/-- The full name of a packet with this encoding, under any function for the digest. -/
def Data.fullNameUnder (d : Data) (hash : Bytes → Bytes)
    (encoding : Except Wire.EncodingError Wire.SignedBlob) : Except Wire.EncodingError Name :=
  encoding.map fun blob => d.name.withDigest (hash blob.bytes)

namespace Data

variable {d : Data} {hash : Bytes → Bytes} {encoding : Except Wire.EncodingError Wire.SignedBlob}

theorem eq_withDigest_of_fullNameUnder {digest : Bytes}
    (hdigest : ∀ blob, encoding = .ok blob → digest = hash blob.bytes) :
    ∀ full, d.fullNameUnder hash encoding = .ok full → full = d.name.withDigest digest := by
  intro full h
  cases encoding with
  | error e => cases h
  | ok blob =>
    cases h
    rw [hdigest blob rfl]

theorem error_of_fullNameUnder {e : Wire.EncodingError} (h : d.fullNameUnder hash encoding = .error e) :
    encoding = .error e := by
  cases encoding with
  | error e' =>
    cases h
    rfl
  | ok blob => cases h

/-- Every encoding has a digest, and a packet without one may be taken to have any. -/
theorem exists_digest (hash : Bytes → Bytes) (encoding : Except Wire.EncodingError Wire.SignedBlob) :
    ∃ digest, ∀ blob, encoding = .ok blob → digest = hash blob.bytes := by
  cases encoding with
  | error e => exact ⟨[], fun blob h => nomatch h⟩
  | ok blob => exact ⟨hash blob.bytes, fun blob' h => by cases h; rfl⟩

end Data

/-! ## Asking a live packet -/

namespace Interest

variable {ε σ : Type}

/-- If asking changes an object, the answer is still that of what is found out by asking. -/
theorem matchesData_run (i : Interest) (d : Data) (ask : Edit σ (Except ε Name)) (s : σ) (n : Count) :
    ((i.matchesData d (ExceptT.mk ask)).run s n).1.1 = i.matchesData d (ask s n).1.1 := by
  obtain ⟨answer, hanswer⟩ | ⟨answer, hanswer⟩ := matchesData_asksOnce i d
  · have hlive : i.matchesData d (ExceptT.mk ask) = pure answer := hanswer _
    have hplain : i.matchesData d (ask s n).1.1 = pure answer := hanswer _
    rw [hlive, hplain]
    rfl
  · have hlive : i.matchesData d (ExceptT.mk ask) = answer <$> ExceptT.mk ask := hanswer _
    have hplain : i.matchesData d (ask s n).1.1 = answer <$> (ask s n).1.1 := hanswer _
    rw [hlive, hplain, ExceptT.run_map]
    rfl

end Interest

/-! ## The value under the encoding -/

namespace LiveData

/-- A live packet answers as its value does under the encoding that it gives. -/
theorem answers_eq (i : Interest) (d : LiveData) (n : Count) :
    (answers i d n).1.1 =
      i.matchesData d.toData (d.toData.fullNameUnder Sha256.digest (wireEncode d n).1.1) := by
  have hask : ((fun new : LiveName => new.value) <$> ExceptT.mk fullName :
      ExceptT Wire.EncodingError (Edit LiveData) Name) =
      ExceptT.mk ((Except.map fun new : LiveName => new.value) <$> fullName) :=
    ExceptT.ext (ExceptT.run_map _ _)
  have hrun := i.matchesData_run d.toData
    ((Except.map fun new : LiveName => new.value) <$> fullName) d n
  rw [← hask] at hrun
  refine hrun.trans (congrArg _ ?_)
  show Except.map (fun new : LiveName => new.value) (fullName d n).1.1 = _
  have hname : (wireEncode d n).1.2.toData.name = d.toData.name := by
    rw [toData_wireEncode]
    exact (settle_keeps d n).1
  unfold fullName
  rw [bind_edit_apply]
  cases (wireEncode d n).1.1 with
  | error e => rfl
  | ok blob =>
    rw [Data.fullNameUnder, ← hname]
    rfl

end LiveData

/-! ## What the answers mean -/

namespace Interest

variable {i : Interest} {d : Data} {hash : Bytes → Bytes}
  {encoding : Except Wire.EncodingError Wire.SignedBlob}

/-- An answer is right under the digest of the encoding, and under any digest if there is none. -/
theorem wants_iff_of_answer {answer : Bool} {digest : Bytes}
    (h : i.matchesData d (d.fullNameUnder hash encoding) = .ok answer)
    (hdigest : ∀ blob, encoding = .ok blob → digest = hash blob.bytes) :
    answer = true ↔ i.Wants (d.name.withDigest digest) d.signature :=
  wants_iff_of_matchesData (Data.eq_withDigest_of_fullNameUnder hdigest) h

/-- What is answered has a name that matches. -/
theorem matchesName_of_answer (hlength : i.name.length ≤ d.name.length)
    (h : i.matchesData d (d.fullNameUnder hash encoding) = .ok true) : i.matchesName d.name = true := by
  obtain ⟨digest, hdigest⟩ := Data.exists_digest hash encoding
  exact ((wants_iff_of_answer h hdigest).1 rfl).matchesName hlength

/-- What has a name that matches is answered, if neither the signature nor the digest matters. -/
theorem answer_of_matchesName (hlength : i.name.length ≤ d.name.length)
    (habsent : i.keyLocator = .absent)
    (hnext : i.exclude.entries = [] ∨ i.name.length < d.name.length)
    (h : i.matchesName d.name = true) :
    i.matchesData d (d.fullNameUnder hash encoding) = .ok true := by
  obtain ⟨digest, hdigest⟩ := Data.exists_digest hash encoding
  obtain ⟨answer, hanswer⟩ : ∃ answer, i.matchesData d (d.fullNameUnder hash encoding) = .ok answer :=
    exists_matchesData hlength hnext
  rw [hanswer, (wants_iff_of_answer hanswer hdigest).2 (.of_matchesName h habsent hnext)]

/-- A live packet answers as its value does under its encoding. The value is matched with an error only if
there is no encoding; an answer is right, whatever function gives the digest; and it agrees with that of
the names alone if these are long enough. -/
theorem matchesData_decides (i : Interest) :
    (∀ (d : LiveData) (n : Count), (LiveData.answers i d n).1.1 =
        i.matchesData d.toData (d.toData.fullNameUnder Sha256.digest (LiveData.wireEncode d n).1.1))
    ∧ ∀ (d : Data) (hash : Bytes → Bytes) (encoding : Except Wire.EncodingError Wire.SignedBlob),
      (∀ e, i.matchesData d (d.fullNameUnder hash encoding) = .error e → encoding = .error e)
      ∧ (∀ answer, i.matchesData d (d.fullNameUnder hash encoding) = .ok answer →
          ∀ digest, (∀ blob, encoding = .ok blob → digest = hash blob.bytes) →
            (answer = true ↔ i.Wants (d.name.withDigest digest) d.signature))
      ∧ (i.name.length ≤ d.name.length →
          (i.matchesData d (d.fullNameUnder hash encoding) = .ok true → i.matchesName d.name = true)
          ∧ (i.keyLocator = .absent →
              i.exclude.entries = [] ∨ i.name.length < d.name.length →
              i.matchesName d.name = true →
              i.matchesData d (d.fullNameUnder hash encoding) = .ok true)) := by
  refine ⟨LiveData.answers_eq i, fun d hash encoding => ⟨?_, ?_, ?_⟩⟩
  · intro e h
    exact Data.error_of_fullNameUnder (error_of_matchesData h)
  · intro answer h digest hdigest
    exact wants_iff_of_answer h hdigest
  · intro hlength
    exact ⟨matchesName_of_answer hlength, answer_of_matchesName hlength⟩

/-- An Interest in the packet `/d` whose digest is 32 sevens, if that is how it is signed. -/
def forSevens : Interest where
  name := ⟨[⟨.generic, [0x64]⟩, ⟨.implicitSha256Digest, List.replicate 32 7⟩]⟩
  keyLocator := .digest [0xaa]

/-- A packet named `/d`. -/
def namedD (s : Signature) : Data where
  name := ⟨[⟨.generic, [0x64]⟩]⟩
  signature := s

/-- What `/d` is encoded as if it is signed as `forSevens` asks. -/
def namedDBlob : Wire.SignedBlob where
  bytes := [0x06, 0x15, 0x07, 0x03, 0x08, 0x01, 0x64, 0x14, 0x00, 0x15, 0x00, 0x16, 0x08, 0x1b, 0x01,
    0x04, 0x1c, 0x03, 0x1d, 0x01, 0xaa, 0x17, 0x00]
  signedBegin := 2
  signedEnd := 21

theorem matchesData_decides_sevens :
    let signed := namedD (.hmacWithSha256 [] (.digest [0xaa]))
    let unsigned := namedD (.generic [] [] none)
    Wire.WireFormat.initial.encodeData signed = .ok namedDBlob
      ∧ forSevens.Wants (signed.name.withDigest (List.replicate 32 7)) signed.signature
      ∧ ¬ forSevens.Wants (signed.name.withDigest (List.replicate 32 8)) signed.signature
      ∧ Wire.WireFormat.initial.encodeData unsigned = .error .missingSignatureInfo
      ∧ { name := signed.name : Interest }.matchesData unsigned
          (unsigned.fullNameUnder Sha256.digest (.error .missingSignatureInfo)) = .ok true := by
  intro signed unsigned
  refine ⟨eq_ok_of_toOption (by decide +kernel), ?_, ?_, ?_, ?_⟩
  · have hanswers := ((matchesData_decides forSevens).2 signed (fun _ => List.replicate 32 7)
      (.ok namedDBlob)).2.1
    exact (hanswers true rfl _ fun _ _ => rfl).1 rfl
  · have hanswers := ((matchesData_decides forSevens).2 signed (fun _ => List.replicate 32 8)
      (.ok namedDBlob)).2.1
    intro hwants
    exact absurd ((hanswers false rfl _ fun _ _ => rfl).2 hwants) (by decide)
  · rfl
  · have hnames := ((matchesData_decides { name := signed.name }).2 unsigned Sha256.digest
      (.error .missingSignatureInfo)).2.2 (Nat.le_refl 1)
    exact hnames.2 rfl (.inl rfl) (by decide)

end Interest

end NamedData
