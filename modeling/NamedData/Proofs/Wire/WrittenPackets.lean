import NamedData.Proofs.Wire.Serialization
import NamedData.Wire.Format

/-!
# Packets made by writers

The writers of names, packets and control messages, in which every element that holds others is nested
in the one around it. Signed ranges are put together from the offsets that nested elements give and
those at which parts of them start. All encoders give what these writers write (`encoders_write`).
-/

namespace NamedData.Wire

namespace Writer

variable {α : Type}

/-! ## Parts of elements -/

/-- Writes an element whose value `body` writes, and leaves aside where the value starts. -/
def container (type : UInt64) (body : Writer Unit) : Writer Unit := do
  let _ ← nested type body

/-- Writes the components of a name, and gives the offset of the last one. -/
def components : List Component → (last : Nat) → Writer Nat
  | [], last => return last
  | c :: cs, _ => do
    let start ← offset
    blob c.type.code c.value
    components cs start

/-- Writes a name, and gives the offsets of its value and of its last component. -/
def name (n : Name) : Writer (Nat × Nat) := do
  let (last, start) ← nested ElementType.name (components n.components 0)
  return (start, start + last)

/-- Writes a name of which nothing is signed by itself. -/
def plainName (n : Name) : Writer Unit := do
  let _ ← name n

/-! ## Key locators and signatures -/

/-- Writes the value of a key locator. -/
def keyLocatorValue : KeyLocator → Writer Unit
  | .absent => return
  | .name n _ => plainName n
  | .digest bytes => blob ElementType.keyLocatorDigest bytes
  | .key _ => throw (.unsupported .embeddedKey)
  | .certificate _ => throw (.unsupported .embeddedKey)

/-- Writes a key locator as an element of the given type, nothing for an absent one. -/
def keyLocator? (type : UInt64) (k : KeyLocator) : Writer Unit :=
  if k.isAbsent then return else container type (keyLocatorValue k)

/-- Writes a validity period, nothing for an unlimited one. -/
def validity? (period : ValidityPeriod) : Writer Unit :=
  match period.bounds with
  | none => return
  | some (first, last) => container ElementType.validityPeriod do
    blob ElementType.notBefore (timeValue first)
    blob ElementType.notAfter (timeValue last)

/-- Writes the description of a named scheme, with what goes into it besides the number. -/
def scheme (type : SignatureType) (fields : Writer Unit) : Writer Unit :=
  container ElementType.signatureInfo do
    integer ElementType.signatureType type.code
    fields

/-- Writes the description of a signature's scheme. -/
def signatureInfo : Signature → Writer Unit
  | .digestSha256 _ => scheme .digestSha256 (return)
  | .hmacWithSha256 _ k => scheme .hmacWithSha256 (keyLocator? ElementType.keyLocator k)
  | .sha256WithRsa _ k period => scheme .sha256WithRsa do
    keyLocator? ElementType.keyLocator k
    validity? period
  | .sha256WithEcdsa _ k period => scheme .sha256WithEcdsa do
    keyLocator? ElementType.keyLocator k
    validity? period
  | .generic _ info _ => if info.isEmpty then throw .missingSignatureInfo else raw info

/-! ## Interests -/

/-- Writes an entry of an exclude. -/
def excludeEntry : ExcludeEntry → Writer Unit
  | .any => blob ElementType.any []
  | .component c => blob c.type.code c.value

/-- Writes an exclude, nothing for one without entries. -/
def exclude? (e : Exclude) : Writer Unit :=
  if e.entries.isEmpty then return else container ElementType.exclude (e.entries.forM excludeEntry)

/-- Writes an element without a value where there is a flag. -/
def flag? (type : UInt64) (flag : Bool) : Writer Unit :=
  if flag then blob type [] else return

/-- Writes the value of the selectors. -/
def selectorsValue (i : Interest) : Writer Unit := do
  integer? ElementType.minSuffixComponents (i.minSuffixComponents.map UInt32.toUInt64)
  integer? ElementType.maxSuffixComponents (i.maxSuffixComponents.map UInt32.toUInt64)
  keyLocator? ElementType.publisherPublicKeyLocator i.keyLocator
  exclude? i.exclude
  integer? ElementType.childSelector (i.childSelector.map ChildSelector.code)
  flag? ElementType.mustBeFresh i.mustBeFresh

/-- Writes the selectors if there are any. -/
def selectors? (i : Interest) : Writer Unit :=
  if hasSelectors i then container ElementType.selectors (selectorsValue i) else return

/-- Writes the link that is attached, if there is one. -/
def link? (i : Interest) : Writer Unit :=
  if i.hasLink then raw i.link else return

/-- Writes what follows the name of an Interest, given its nonce. -/
def interestTail (i : Interest) (nonce : Bytes) : Writer Unit := do
  selectors? i
  blob ElementType.nonce nonce
  integer? ElementType.scope (i.scope.map UInt32.toUInt64)
  integer? ElementType.interestLifetime (i.lifetime.map Time.Duration.saturatedMillis)
  link? i
  integer? ElementType.selectedDelegation (i.selectedDelegation.map UInt32.toUInt64)

/-- Writes the value of an Interest, and gives the range of it that is signed. -/
def interest (i : Interest) (nonce : Bytes) : Writer (Nat × Nat) := do
  let signed ← name i.name
  interestTail i nonce
  return signed

/-! ## Data packets -/

/-- Writes the component of the last block, which is an element by itself. -/
def finalBlockId? : Option Component → Writer Unit
  | none => return
  | some c => container ElementType.finalBlockId (blob c.type.code c.value)

/-- Writes a number that is left out where it goes without saying. -/
def code? (type : UInt64) (implied : Prop) [Decidable implied] (code : UInt64) : Writer Unit :=
  if implied then return else integer type code

/-- Writes the value of meta information. -/
def metaInfo (m : MetaInfo) : Writer Unit := do
  code? ElementType.contentType (m.contentType = .blob) m.contentType.code
  integer? ElementType.freshnessPeriod (m.freshnessPeriod.map Time.Duration.saturatedMillis)
  finalBlockId? m.finalBlockId

/-- Writes the part of a Data packet that is signed. -/
def signedPart (d : Data) : Writer Unit := do
  plainName d.name
  container ElementType.metaInfo (metaInfo d.metaInfo)
  blob ElementType.content d.content
  signatureInfo d.signature

/-- Writes the value of a Data packet, and gives the range of it that is signed. -/
def data (d : Data) : Writer (Nat × Nat) := do
  let first ← offset
  signedPart d
  let last ← offset
  blob ElementType.signatureValue d.signature.bytes
  return (first, last)

/-! ## Delegations and control messages -/

/-- Writes a delegation. -/
def delegation (d : Delegation) : Writer Unit :=
  container ElementType.linkDelegation do
    integer ElementType.linkPreference d.preference
    plainName d.name

/-- Writes a refusal. -/
def nack (nack : NetworkNack) : Writer Unit :=
  container ElementType.networkNack
    (code? ElementType.nackReason (nack.reason = .unspecified) nack.reason.code)

/-- Writes something if it is there. -/
def optional (a : Option α) (w : α → Writer Unit) : Writer Unit :=
  match a with
  | none => return
  | some a => w a

/-- Writes a text. -/
def text (type : UInt64) (s : String) : Writer Unit :=
  blob type (Text.Utf8.encode s.toList)

/-- Writes parameters. -/
def parameters (p : ControlParameters) : Writer Unit :=
  container ElementType.controlParameters do
    optional p.name plainName
    integer? ElementType.faceId p.faceId
    optional p.uri (text ElementType.uri)
    integer? ElementType.localControlFeature p.localControlFeature
    integer? ElementType.origin p.origin
    integer? ElementType.cost p.cost
    code? ElementType.flags (p.flags = .initial) p.flags.bits
    optional p.strategy fun n => container ElementType.strategy (plainName n)
    integer? ElementType.expirationPeriod (p.expirationPeriod.map Time.Duration.saturatedMillis)

/-- Writes a response. -/
def response (r : ControlResponse) : Writer Unit :=
  container ElementType.controlResponse do
    integer ElementType.statusCode r.statusCode
    text ElementType.statusText r.statusText
    optional r.body parameters

/-! ## Whole encodings -/

/-- All that is written from the start. -/
def bytes (w : Writer α) : Except EncodingError Bytes :=
  (w.run []).map Prod.snd

/-- A packet with its signed range, which `body` gives by offsets in the value. -/
def packet (type : UInt64) (body : Writer (Nat × Nat)) : Except EncodingError SignedBlob := do
  let (((first, last), start), bytes) ← (nested type body).run []
  return ⟨bytes, start + first, start + last⟩

/-! ## What the writers append -/

/-- The writer appends the bytes that the result has, or fails with its error. -/
def Appends (w : Writer Unit) (result : Except EncodingError Bytes) : Prop :=
  ∀ written, w.run written = result.map fun bytes => ((), written ++ bytes)

namespace Appends

variable {w w' body : Writer Unit} {first second value : Bytes} {e : EncodingError}
  {result : Except EncodingError Bytes}

theorem nothing : Appends (return) (.ok []) :=
  fun written => congrArg (fun bytes => Except.ok ((), bytes)) (List.append_nil written).symm

protected theorem throw (e : EncodingError) : Appends (throw e) (.error e) :=
  fun _ => rfl

protected theorem raw (bytes : Bytes) : Appends (raw bytes) (.ok bytes) :=
  run_raw bytes

protected theorem blob (type : UInt64) (value : Bytes) :
    Appends (blob type value) (.ok (element type value)) :=
  run_blob type value

protected theorem integer (type n : UInt64) :
    Appends (integer type n) (.ok (integerElement type n)) :=
  run_integer type n

protected theorem integer? (type : UInt64) (n : Option UInt64) :
    Appends (integer? type n) (.ok (integerElement? type n)) :=
  run_integer? type n

/-- One writer goes on behind what the other has written. -/
theorem followedBy (h : Appends w (.ok first)) (h' : Appends w' (.ok second)) :
    Appends (do w; w') (.ok (first ++ second)) := by
  intro written
  rw [run_bind_ok (h written), h' (written ++ first)]
  exact congrArg (fun bytes => Except.ok ((), bytes)) (List.append_assoc written first second)

theorem error_left (h : Appends w (.error e)) (w' : Writer Unit) :
    Appends (do w; w') (.error e) :=
  fun written => run_bind_error (h written) _

theorem error_right (h : Appends w (.ok first)) (h' : Appends w' (.error e)) :
    Appends (do w; w') (.error e) := by
  intro written
  rw [run_bind_ok (h written), h' (written ++ first)]
  rfl

protected theorem container (h : Appends body (.ok value)) (type : UInt64) :
    Appends (container type body) (.ok (element type value)) := by
  intro written
  have hvalue : body.run [] = .ok ((), value) := h []
  rw [container, run_bind_ok (run_nested_ok hvalue type written), List.append_assoc, element]
  rfl

theorem container_error (h : Appends body (.error e)) (type : UInt64) :
    Appends (container type body) (.error e) := by
  intro written
  have hvalue : body.run [] = .error e := h []
  rw [container, run_bind_error (run_nested_error hvalue type written)]
  rfl

protected theorem forM {w : α → Writer Unit} {write : α → Bytes} (h : ∀ a, Appends (w a) (.ok (write a)))
    (as : List α) : Appends (as.forM w) (.ok (as.flatMap write)) := by
  induction as with
  | nil => exact nothing
  | cons a as ih => exact (h a).followedBy ih

end Appends

/-! ## Names -/

/-- The last component starts where the others end. -/
theorem run_components (cs : List Component) (last : Nat) (written : Bytes) :
    (components cs last).run written
      = .ok (if cs = [] then last else (written ++ componentElements cs.dropLast).length,
          written ++ componentElements cs) := by
  induction cs generalizing last written with
  | nil => exact congrArg (fun bytes => Except.ok (last, bytes)) (List.append_nil written).symm
  | cons c cs ih =>
    rw [components, run_bind_ok (run_offset written), run_bind_ok (run_blob _ _ _), ih,
      if_neg (List.cons_ne_nil c cs)]
    cases cs <;> simp [componentElements, componentElement]

/-- A name is appended, with the offset of its value and of its last component. -/
theorem run_name (n : Name) (written : Bytes) :
    (name n).run written = .ok
      (((written ++ header ElementType.name (componentElements n.components).length).length,
        (written ++ header ElementType.name (componentElements n.components).length).length
          + (componentElements n.components.dropLast).length), written ++ nameElement n) := by
  have hvalue : (components n.components 0).run []
      = .ok ((componentElements n.components.dropLast).length, componentElements n.components) := by
    rw [run_components]
    cases n.components <;> rfl
  rw [name, run_bind_ok (run_nested_ok hvalue _ written), nameElement, element, ← List.append_assoc]
  rfl

namespace Appends

protected theorem plainName (n : Name) : Appends (plainName n) (.ok (nameElement n)) := by
  intro written
  rw [plainName, run_bind_ok (run_name n written)]
  rfl

/-! ## Key locators and signatures -/

protected theorem keyLocator? (type : UInt64) (k : KeyLocator) :
    Appends (keyLocator? type k) (keyLocatorElement? type k) := by
  cases k with
  | absent => exact nothing
  | name n => exact .container (.plainName n) type
  | digest bytes => exact .container (.blob ElementType.keyLocatorDigest bytes) type
  | key | certificate => exact container_error (.throw _) type

protected theorem validity? (period : ValidityPeriod) :
    Appends (validity? period) (.ok (validityElement? period)) := by
  rw [validity?, validityElement?]
  cases period.bounds with
  | none => exact nothing
  | some bounds => exact .container (followedBy (.blob _ _) (.blob _ _)) ElementType.validityPeriod

protected theorem scheme (type : SignatureType) {fields : Writer Unit} {locator validity : Bytes}
    (h : Appends fields (.ok (locator ++ validity))) :
    Appends (scheme type fields) (.ok (schemeElement type locator validity)) := by
  rw [schemeElement, List.append_assoc]
  exact .container (followedBy (.integer _ _) h) ElementType.signatureInfo

theorem scheme_error (type : SignatureType) {fields : Writer Unit} {e : EncodingError}
    (h : Appends fields (.error e)) : Appends (scheme type fields) (.error e) :=
  container_error (error_right (.integer _ _) h) ElementType.signatureInfo

/-- A description of a scheme with a private key. -/
theorem keyScheme (type : SignatureType) (k : KeyLocator) (period : ValidityPeriod) :
    Appends (scheme type do keyLocator? ElementType.keyLocator k; validity? period)
      (do
        let locator ← keyLocatorElement? ElementType.keyLocator k
        return schemeElement type locator (validityElement? period)) := by
  have hlocator := Appends.keyLocator? ElementType.keyLocator k
  cases hk : keyLocatorElement? ElementType.keyLocator k with
  | error e =>
    rw [hk] at hlocator
    exact scheme_error type (hlocator.error_left _)
  | ok locator =>
    rw [hk] at hlocator
    exact .scheme type (hlocator.followedBy (.validity? period))

protected theorem signatureInfo (s : Signature) :
    Appends (signatureInfo s) (encodeSignatureInfo s) := by
  cases s with
  | digestSha256 => exact .scheme .digestSha256 nothing
  | hmacWithSha256 bytes k =>
    have hlocator := Appends.keyLocator? ElementType.keyLocator k
    rw [signatureInfo, encodeSignatureInfo]
    cases hk : keyLocatorElement? ElementType.keyLocator k with
    | error e =>
      rw [hk] at hlocator
      exact scheme_error .hmacWithSha256 hlocator
    | ok locator =>
      rw [hk, ← List.append_nil locator] at hlocator
      exact .scheme .hmacWithSha256 hlocator
  | sha256WithRsa bytes k period => exact keyScheme .sha256WithRsa k period
  | sha256WithEcdsa bytes k period => exact keyScheme .sha256WithEcdsa k period
  | generic bytes info =>
    rw [signatureInfo, encodeSignatureInfo]
    split
    · exact .throw _
    · exact .raw info

/-! ## Interests -/

protected theorem excludeEntry (entry : ExcludeEntry) :
    Appends (excludeEntry entry) (.ok (excludeEntryElement entry)) := by
  cases entry with
  | any => exact .blob _ _
  | component c => exact .blob _ _

protected theorem exclude? (e : Exclude) : Appends (exclude? e) (.ok (excludeElement? e)) := by
  rw [exclude?, excludeElement?]
  split
  · exact nothing
  · exact .container (.forM .excludeEntry e.entries) ElementType.exclude

protected theorem flag? (type : UInt64) (flag : Bool) :
    Appends (flag? type flag) (.ok (if flag then element type [] else [])) := by
  cases flag with
  | false => exact nothing
  | true => exact .blob type []

protected theorem selectorsValue (i : Interest) :
    Appends (selectorsValue i) (Wire.selectorsValue i) := by
  have hlocator := Appends.keyLocator? ElementType.publisherPublicKeyLocator i.keyLocator
  rw [selectorsValue, Wire.selectorsValue]
  cases hk : keyLocatorElement? ElementType.publisherPublicKeyLocator i.keyLocator with
  | error e =>
    rw [hk] at hlocator
    exact error_right (.integer? _ _) (error_right (.integer? _ _) (hlocator.error_left _))
  | ok locator =>
    rw [hk] at hlocator
    show Appends _ (.ok _)
    simp only [List.append_assoc]
    refine followedBy (.integer? _ _) (followedBy (.integer? _ _) (hlocator.followedBy ?_))
    exact followedBy (.exclude? i.exclude) (followedBy (.integer? _ _) (.flag? _ _))

protected theorem selectors? (i : Interest) : Appends (selectors? i) (selectorsElement? i) := by
  have hvalue := Appends.selectorsValue i
  rw [selectors?, selectorsElement?]
  split
  · cases hs : Wire.selectorsValue i with
    | error e =>
      rw [hs] at hvalue
      exact hvalue.container_error ElementType.selectors
    | ok value =>
      rw [hs] at hvalue
      exact hvalue.container ElementType.selectors
  · exact nothing

/-- To write no link is to write the bytes of none. -/
protected theorem link? (i : Interest) : Appends (link? i) (.ok i.link) := by
  rw [link?, InterestSettings.hasLink]
  cases i.link with
  | nil => exact nothing
  | cons byte bytes => exact .raw _

protected theorem interestTail (i : Interest) (nonce : Bytes) :
    Appends (interestTail i nonce) (Wire.interestTail i nonce) := by
  have hselectors := Appends.selectors? i
  rw [interestTail, Wire.interestTail]
  cases hs : selectorsElement? i with
  | error e =>
    rw [hs] at hselectors
    exact hselectors.error_left _
  | ok selectors =>
    rw [hs] at hselectors
    show Appends _ (.ok _)
    simp only [List.append_assoc]
    refine hselectors.followedBy (followedBy (.blob _ _) (followedBy (.integer? _ _) ?_))
    exact followedBy (.integer? _ _) (followedBy (.link? i) (.integer? _ _))

/-! ## Data packets -/

protected theorem code? (type : UInt64) (implied : Prop) [Decidable implied] (code : UInt64) :
    Appends (code? type implied code) (.ok (if implied then [] else integerElement type code)) := by
  rw [code?]
  split
  · exact nothing
  · exact .integer type code

protected theorem metaInfo (m : MetaInfo) : Appends (metaInfo m) (.ok (metaInfoValue m)) := by
  rw [metaInfo, metaInfoValue, List.append_assoc]
  refine followedBy (.code? _ _ _) (followedBy (.integer? _ _) ?_)
  cases m.finalBlockId with
  | none => exact nothing
  | some c => exact .container (.blob _ _) ElementType.finalBlockId

protected theorem signedPart (d : Data) :
    Appends (signedPart d) (Wire.signedPart d <$> encodeSignatureInfo d.signature) := by
  have hinfo := Appends.signatureInfo d.signature
  have hmeta := (Appends.metaInfo d.metaInfo).container ElementType.metaInfo
  rw [signedPart]
  cases hs : encodeSignatureInfo d.signature with
  | error e =>
    rw [hs] at hinfo
    exact error_right (.plainName _) (error_right hmeta (error_right (.blob _ _) hinfo))
  | ok info =>
    rw [hs] at hinfo
    show Appends _ (.ok (Wire.signedPart d info))
    simp only [Wire.signedPart, List.append_assoc]
    exact followedBy (.plainName _) (hmeta.followedBy (followedBy (.blob _ _) hinfo))

/-! ## Delegations and control messages -/

protected theorem delegation (d : Delegation) : Appends (delegation d) (.ok (delegationElement d)) :=
  .container (followedBy (.integer _ _) (.plainName d.name)) ElementType.linkDelegation

protected theorem nack (nack : NetworkNack) : Appends (Writer.nack nack) (.ok (encodeNack nack)) :=
  .container (.code? _ _ _) ElementType.networkNack

protected theorem parameters (p : ControlParameters) :
    Appends (parameters p) (.ok (encodeParameters p)) := by
  have hname : Appends (optional p.name plainName) (.ok (nameElement? p.name)) := by
    cases p.name with
    | none => exact nothing
    | some n => exact .plainName n
  rw [parameters, encodeParameters]
  simp only [List.append_assoc]
  refine .container ?_ ElementType.controlParameters
  refine hname.followedBy (followedBy (.integer? _ _) (followedBy ?_ (followedBy (.integer? _ _)
    (followedBy (.integer? _ _) (followedBy (.integer? _ _) (followedBy (.code? _ _ _)
      (followedBy ?_ (.integer? _ _))))))))
  · cases p.uri with
    | none => exact nothing
    | some uri => exact .blob _ _
  · cases p.strategy with
    | none => exact nothing
    | some n => exact .container (.plainName n) ElementType.strategy

protected theorem response (r : ControlResponse) :
    Appends (response r) (.ok (encodeResponse r)) := by
  rw [response, encodeResponse, List.append_assoc]
  refine .container (followedBy (.integer _ _) (followedBy (.blob _ _) ?_))
    ElementType.controlResponse
  cases r.body with
  | none => exact nothing
  | some p => exact .parameters p

end Appends

/-! ## Whole encodings -/

/-- What has been written from the start is what is appended to no bytes. -/
theorem Appends.bytes_eq {w : Writer Unit} {result : Except EncodingError Bytes}
    (h : Appends w result) : w.bytes = result := by
  rw [bytes, h []]
  cases result <;> rfl

theorem bytes_name (n : Name) : (name n).bytes = .ok (nameElement n) := by
  rw [bytes, run_name]
  rfl

theorem bytes_delegations (set : DelegationSet) :
    (set.entries.forM delegation : Writer Unit).bytes = .ok (encodeDelegations set) :=
  (Appends.forM Appends.delegation set.entries).bytes_eq

/-- The range that is signed is given by offsets in the value, to which the offset of the value is
added. -/
theorem packet_eq_ok {body : Writer (Nat × Nat)} {first last : Nat} {value : Bytes}
    (h : body.run [] = .ok ((first, last), value)) (type : UInt64) :
    packet type body = .ok ⟨element type value, (header type value.length).length + first,
      (header type value.length).length + last⟩ := by
  rw [packet, run_nested_ok h type []]
  rfl

theorem packet_eq_error {body : Writer (Nat × Nat)} {e : EncodingError}
    (h : body.run [] = .error e) (type : UInt64) : packet type body = .error e := by
  rw [packet, run_nested_error h type []]
  rfl

theorem packet_interest (nonceLength : Nat) (random : Nat → UInt8) (i : Interest) :
    packet ElementType.interest (interest i (sentNonce nonceLength random i))
      = encodeInterest nonceLength random i := by
  have hname := run_name i.name []
  have htail := Appends.interestTail i (sentNonce nonceLength random i) ([] ++ nameElement i.name)
  rw [encodeInterest_eq]
  cases hs : Wire.interestTail i (sentNonce nonceLength random i) with
  | error e =>
    rw [hs] at htail
    refine packet_eq_error ?_ ElementType.interest
    rw [interest, run_bind_ok hname, run_bind_error htail]
  | ok following =>
    rw [hs] at htail
    let start := (header ElementType.name (componentElements i.name.components).length).length
    have hvalue : (interest i (sentNonce nonceLength random i)).run []
        = .ok ((start, start + (componentElements i.name.components.dropLast).length),
          nameElement i.name ++ following) := by
      rw [interest, run_bind_ok hname, run_bind_ok htail]
      rfl
    rw [packet_eq_ok hvalue, ← Nat.add_assoc]
    rfl

theorem packet_data (d : Data) : packet ElementType.data (data d) = encodeData d := by
  have hsigned := Appends.signedPart d []
  rw [encodeData_eq]
  cases hs : encodeSignatureInfo d.signature with
  | error e =>
    rw [hs] at hsigned
    refine packet_eq_error ?_ ElementType.data
    rw [data, run_bind_ok (run_offset []), run_bind_error hsigned]
  | ok info =>
    rw [hs] at hsigned
    have hvalue : (data d).run [] = .ok ((0, (Wire.signedPart d info).length),
        Wire.signedPart d info ++ element ElementType.signatureValue d.signature.bytes) := by
      rw [data, run_bind_ok (run_offset []), run_bind_ok hsigned, run_bind_ok (run_offset _),
        run_bind_ok (run_blob _ _ _)]
      rfl
    rw [packet_eq_ok hvalue]
    rfl

end Writer

/-- Every encoder gives what a writer writes from the start. -/
theorem encoders_write (config : PacketConfig) :
    (∀ n, (WireFormat.tlv config).encodeName n = (Writer.name n).bytes)
      ∧ (∀ random i, (WireFormat.tlv config).encodeInterest random i
        = Writer.packet ElementType.interest
            (Writer.interest i (sentNonce config.nonceLength.toNat random i)))
      ∧ (∀ d, (WireFormat.tlv config).encodeData d
        = Writer.packet ElementType.data (Writer.data d))
      ∧ (∀ s, (WireFormat.tlv config).encodeSignatureInfo s = (Writer.signatureInfo s).bytes)
      ∧ (∀ set, (WireFormat.tlv config).encodeDelegations set
        = (set.entries.forM Writer.delegation : Writer Unit).bytes)
      ∧ (∀ nack, (WireFormat.tlv config).encodeNack nack = (Writer.nack nack).bytes)
      ∧ (∀ p, (WireFormat.tlv config).encodeParameters p = (Writer.parameters p).bytes)
      ∧ ∀ r, (WireFormat.tlv config).encodeResponse r = (Writer.response r).bytes := by
  refine ⟨fun n => ?_, fun random i => ?_, fun d => ?_, fun s => ?_, fun set => ?_, fun nack => ?_,
    fun p => ?_, fun r => ?_⟩
  · exact (Writer.bytes_name n).symm
  · exact (Writer.packet_interest _ random i).symm
  · exact (Writer.packet_data d).symm
  · exact (Writer.Appends.signatureInfo s).bytes_eq.symm
  · exact (Writer.bytes_delegations set).symm
  · exact (Writer.Appends.nack nack).bytes_eq.symm
  · exact (Writer.Appends.parameters p).bytes_eq.symm
  · exact (Writer.Appends.response r).bytes_eq.symm

end NamedData.Wire
