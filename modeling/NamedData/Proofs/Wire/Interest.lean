import NamedData.Proofs.Wire.Name
import NamedData.Wire.Format

/-!
# Interests are read back

What an Interest is encoded as is decoded to its normal form: types of components that have a name
carry it, the name of a key carries no type, the origin of answers is only whether they must be
fresh, the lifetime is in whole milliseconds, and a missing nonce has been made up. The encoding
fails if and only if the key locator holds the key or the certificate itself.
-/

namespace NamedData

/-! ## Normal forms -/

/-- A duration rounded down to whole milliseconds, of which a field holds at most `UInt64.size - 1`. -/
def Time.Duration.truncate (d : Duration) : Duration :=
  ⟨min d.wholeMillis (UInt64.size - 1) * 1000000⟩

theorem Time.Duration.ofMillis_saturatedMillis (d : Duration) :
    ofMillis d.saturatedMillis = d.truncate := by
  have hmin : min d.wholeMillis (UInt64.size - 1) < UInt64.size :=
    Nat.lt_of_le_of_lt (Nat.min_le_right _ _) (by decide)
  rw [ofMillis, saturatedMillis, truncate, UInt64.toNat_ofNat', Nat.mod_eq_of_lt hmin]

/-- Durations are read back to the millisecond. -/
theorem Time.Duration.map_ofMillis_saturatedMillis (d : Option Duration) :
    (d.map saturatedMillis).map ofMillis = d.map truncate := by
  cases d with
  | none => rfl
  | some d => exact congrArg some d.ofMillis_saturatedMillis

/-- An entry whose component, if it is one, carries the name of its type. -/
def ExcludeEntry.normalize : ExcludeEntry → ExcludeEntry
  | any => any
  | component c => component c.normalize

/-- An exclude whose components carry the names of their types. -/
def Exclude.normalize (e : Exclude) : Exclude :=
  ⟨e.entries.map ExcludeEntry.normalize⟩

/-- An entry as it is read: a component of the type of the wildcard is read as the wildcard. -/
def ExcludeEntry.asRead : ExcludeEntry → ExcludeEntry
  | any => any
  | component c => if c.type.code = Wire.ElementType.any then any else component c.normalize

/-- An exclude as it is read. -/
def Exclude.asRead (e : Exclude) : Exclude :=
  ⟨e.entries.map ExcludeEntry.asRead⟩

/-- An Interest as the wire can hold it, but for the nonce. -/
def Interest.normalize (i : Interest) : Interest :=
  { i with
    name := i.name.normalize
    keyLocator := i.keyLocator.normalize
    exclude := i.exclude.normalize
    answerOrigin := if i.mustBeFresh then none else some .stale
    lifetime := i.lifetime.map Time.Duration.truncate }

/-- An Interest as it is read, but for the nonce. -/
def Interest.asRead (i : Interest) : Interest :=
  { i.normalize with exclude := i.exclude.asRead }

namespace Wire

open Reader (Reads)

variable {offset : Nat} {after : Bytes} {type : UInt64} {types : List UInt64}

namespace Reader.Reads

/-! ## Selectors -/

/-- A number of 32 bits that may be missing. -/
theorem optionalInteger32 (n : Option UInt32) (h : StartsIn types after) (hnot : type ∉ types) :
    Reads (optionalInteger32 type) offset (integer32Element? type n) after n := by
  cases n with
  | none => exact .bind_left (optional_none h hnot) (.pure none)
  | some n =>
    refine .bind_right (optional_some (.integer n.toUInt64) (startsWith_element type _)) ?_
    have hlt : n.toUInt64.toNat < UInt32.size := n.toNat_lt
    show Reads (if n.toUInt64.toNat < UInt32.size then pure (some n.toUInt64.toUInt32) else _) _ _ _ _
    rw [if_pos hlt, UInt32.toUInt32_toUInt64]
    exact .pure (some n)

protected theorem excludeEntry (entry : ExcludeEntry) :
    Reads excludeEntry offset (excludeEntryElement entry) after entry.asRead := by
  cases entry with
  | any => exact .bind_right (.any (headerForm_header ElementType.any _)) (.pure _)
  | component c => exact .bind_right (.any (headerForm_header c.type.code _)) (.pure _)

/-- An exclude without entries is left out. -/
protected theorem excludeElement? (e : Exclude) (h : StartsIn types after)
    (hnot : ElementType.exclude ∉ types) :
    Reads (optionalNested ElementType.exclude (many excludeEntry)) offset (excludeElement? e) after
      (if e.entries.isEmpty then none else some e.asRead.entries) := by
  rw [Wire.excludeElement?]
  by_cases hempty : e.entries.isEmpty = true
  · rw [if_pos hempty, if_pos hempty]
    exact optional_none h hnot
  · rw [if_neg hempty, if_neg hempty]
    refine optional_some (.nested (headerForm_header _ _) ?_) (startsWith_element _ _)
    have hne : ∀ entry ∈ e.entries, excludeEntryElement entry ≠ [] := by
      intro entry _
      cases entry with
      | any => exact element_ne_nil _ _
      | component c => exact element_ne_nil _ _
    exact .many_map hne fun entry _ _ _ => .excludeEntry entry

protected theorem childSelector (c : Option ChildSelector) (h : StartsIn types after)
    (hnot : ElementType.childSelector ∉ types) :
    Reads (optional ElementType.childSelector childSelector) offset
      (integerElement? ElementType.childSelector (c.map ChildSelector.code)) after c := by
  cases c with
  | none => exact optional_none h hnot
  | some c =>
    have hcode : ChildSelector.ofCode? c.code = some c := by cases c <;> rfl
    have hread : Reads childSelector offset (integerElement ElementType.childSelector c.code) after
        c := by
      refine .bind_right (.integer c.code) ?_
      rw [hcode]
      exact .pure c
    exact optional_some hread (startsWith_element _ _)

/-- A flag is an element without a value. -/
theorem optional_flag (flag : Bool) (h : StartsIn types after) (hnot : type ∉ types) :
    Reads (optional type (blob type)) offset (if flag then element type [] else []) after
      (if flag then some [] else none) := by
  cases flag with
  | false => exact optional_none h hnot
  | true => exact optional_some (.blob (headerForm_header type 0)) (startsWith_element type [])

end Reader.Reads

/-- The selectors as they are read. -/
def readSelectors (i : Interest) : Selectors where
  minSuffixComponents := i.minSuffixComponents
  maxSuffixComponents := i.maxSuffixComponents
  keyLocator := i.keyLocator.normalize
  exclude := i.exclude.asRead
  childSelector := i.childSelector
  mustBeFresh := i.mustBeFresh

/-- An Interest whose exclude holds no component of the type of the wildcard. -/
def NoWildcardComponent (i : Interest) : Prop :=
  ∀ c, .component c ∈ i.exclude.entries → c.type.code ≠ ElementType.any

private theorem getD_entries (e : Exclude) :
    (if e.entries.isEmpty then none else some e.asRead.entries).getD [] = e.asRead.entries := by
  obtain ⟨entries⟩ := e
  cases entries <;> rfl

private theorem isSome_flag (flag : Bool) :
    (if flag then some ([] : Bytes) else none).isSome = flag := by
  cases flag <;> rfl

theorem StartsIn.excludeElement? (e : Exclude) :
    StartsIn [ElementType.exclude] (excludeElement? e) := by
  unfold Wire.excludeElement?
  split
  · exact .inl rfl
  · exact ofElement _ _

theorem StartsIn.flag (type : UInt64) (flag : Bool) :
    StartsIn [type] (if flag then element type [] else []) := by
  cases flag with
  | false => exact .inl rfl
  | true => exact ofElement type []

theorem Reader.Reads.selectors {i : Interest} {value : Bytes}
    (h : selectorsValue i = .ok value) :
    Reads selectors offset value [] (readSelectors i) := by
  cases hlocator : keyLocatorElement? ElementType.publisherPublicKeyLocator i.keyLocator with
  | error e =>
    rw [selectorsValue, hlocator] at h
    cases h
  | ok locator =>
    rw [selectorsValue, hlocator] at h
    cases h
    simp only [List.append_assoc]
    -- what can follow each field, from the last to the first: it never has the type of the field
    have hfresh := StartsIn.flag ElementType.mustBeFresh i.mustBeFresh
    have hchild := (StartsIn.integerElement? ElementType.childSelector
      (i.childSelector.map ChildSelector.code)).append hfresh
    have hexclude := (StartsIn.excludeElement? i.exclude).append hchild
    have hkey := (StartsIn.keyLocatorElement? hlocator).append hexclude
    have hmax := (StartsIn.integerElement? ElementType.maxSuffixComponents
      (i.maxSuffixComponents.map UInt32.toUInt64)).append hkey
    refine .bind (.optionalInteger32 i.minSuffixComponents (hmax.append .nil) (by decide)) ?_
    refine .bind (.optionalInteger32 i.maxSuffixComponents (hkey.append .nil) (by decide)) ?_
    refine .bind (.keyLocatorElement? hlocator (hexclude.append .nil) (by decide)) ?_
    refine .bind (.excludeElement? i.exclude (hchild.append .nil) (by decide)) ?_
    refine .bind (.childSelector i.childSelector (hfresh.append .nil) (by decide)) ?_
    refine .bind_right (.optional_flag i.mustBeFresh .nil List.not_mem_nil) ?_
    rw [getD_normalize, getD_entries, isSome_flag]
    exact .pure (readSelectors i)

/-- If there are no selectors, those are read that none stand for. -/
private theorem readSelectors_of_not_hasSelectors {i : Interest} (h : hasSelectors i = false) :
    readSelectors i = {} := by
  simp only [hasSelectors, Bool.or_eq_false_iff, Option.isSome_eq_false_iff,
    Option.isNone_iff_eq_none, Bool.not_eq_false'] at h
  obtain ⟨⟨⟨⟨⟨hmin, hmax⟩, hlocator⟩, hexclude⟩, hchild⟩, hfresh⟩ := h
  have hkey : i.keyLocator = .absent := by
    cases hk : i.keyLocator with
    | absent => rfl
    | key | certificate | digest | name =>
      rw [hk] at hlocator
      cases hlocator
  have hentries : i.exclude.asRead = {} := by
    rw [Exclude.asRead, List.isEmpty_iff.1 hexclude]
    rfl
  rw [readSelectors, hmin, hmax, hkey, hentries, hchild, hfresh]
  rfl

/-- Selectors are left out if there are none. -/
theorem Reader.Reads.selectorsElement? {i : Interest} {written : Bytes}
    (h : selectorsElement? i = .ok written) (hafter : StartsIn types after) (hnot : ElementType.selectors ∉ types) :
    ∃ found, Reads (optionalNested ElementType.selectors Reader.selectors) offset written after found
      ∧ found.getD {} = readSelectors i := by
  rw [Wire.selectorsElement?] at h
  cases hhas : hasSelectors i with
  | false =>
    rw [hhas] at h
    cases h
    exact ⟨none, optional_none hafter hnot, (readSelectors_of_not_hasSelectors hhas).symm⟩
  | true =>
    rw [hhas] at h
    cases hvalue : selectorsValue i with
    | error e =>
      rw [hvalue] at h
      cases h
    | ok value =>
      rw [hvalue] at h
      cases h
      exact ⟨some (readSelectors i), optional_some (.nested (headerForm_header _ _)
        (.selectors hvalue)) (startsWith_element _ _), rfl⟩

/-! ## Interests -/

/-- A link is one whole Data packet, or there is none. -/
def WholeLink (i : Interest) : Prop :=
  i.link = [] ∨ IsElement ElementType.data i.link

theorem StartsIn.link {i : Interest} (h : WholeLink i) : StartsIn [ElementType.data] i.link := by
  rcases h with h | h
  · exact .inl h
  · obtain ⟨value, hvalue⟩ := h
    exact .inr ⟨_, List.mem_singleton_self _, hvalue.startsWith⟩

theorem Reader.Reads.link {i : Interest} (h : WholeLink i) (hafter : StartsIn types after)
    (hnot : ElementType.data ∉ types) :
    ∃ found, Reads (optional ElementType.data (withBytes (blob ElementType.data))) offset i.link
        after found ∧ (found.map Prod.snd).getD [] = i.link := by
  rcases h with h | h
  · rw [h]
    exact ⟨none, optional_none hafter hnot, rfl⟩
  · obtain ⟨value, head, hhead, -, heq⟩ := h
    rw [heq]
    exact ⟨some (value, head ++ value),
      optional_some (.withBytes (.blob hhead)) (hhead.startsWith value), rfl⟩

/-- The bytes of an Interest, given what follows its name, and their signed range. -/
def interestBlob (i : Interest) (following : Bytes) : SignedBlob :=
  let value := nameElement i.name ++ following
  let signedBegin :=
    (header ElementType.interest value.length).length
      + (header ElementType.name (componentElements i.name.components).length).length
  ⟨element ElementType.interest value, signedBegin,
    signedBegin + (componentElements i.name.components.dropLast).length⟩

theorem Reader.Reads.interest {i : Interest} {nonce following : Bytes} (hlink : WholeLink i)
    (h : interestTail i nonce = .ok following) :
    Reads interest 0 (interestBlob i following).bytes []
      ({ i.asRead with nonce }, (interestBlob i following).signedBegin,
        (interestBlob i following).signedEnd) := by
  cases hselectors : Wire.selectorsElement? i with
  | error e =>
    rw [interestTail, hselectors] at h
    cases h
  | ok selectors =>
    rw [interestTail, hselectors] at h
    cases h
    simp only [interestBlob, List.append_assoc]
    -- as for the selectors, what can follow comes first
    have hselected := StartsIn.integerElement? ElementType.selectedDelegation
      (i.selectedDelegation.map UInt32.toUInt64)
    have hafterLifetime := (StartsIn.link hlink).append hselected
    have hafterScope := (StartsIn.integerElement? ElementType.interestLifetime
      (i.lifetime.map Time.Duration.saturatedMillis)).append hafterLifetime
    have hafterNonce := (StartsIn.integerElement? ElementType.scope
      (i.scope.map UInt32.toUInt64)).append hafterScope
    have hafterSelectors := (StartsIn.ofElement ElementType.nonce nonce).append hafterNonce
    -- two fields may be missing without a trace in what is read
    obtain ⟨foundSelectors, hreadSelectors, hfound⟩ :=
      Reads.selectorsElement? hselectors (hafterSelectors.append .nil) (by decide)
    obtain ⟨foundLink, hreadLink, hlinkBytes⟩ :=
      Reads.link hlink (hselected.append .nil) (by decide)
    refine .nested (headerForm_header _ _) (.bind (.nameRange i.name) ?_)
    refine .bind hreadSelectors ?_
    refine .bind (.blob (headerForm_header _ _)) ?_
    refine .bind (.optionalInteger32 i.scope (hafterScope.append .nil) (by decide)) ?_
    refine .bind (.optional_integer _ (hafterLifetime.append .nil) (by decide)) ?_
    refine .bind hreadLink ?_
    refine .bind_right (.optionalInteger32 i.selectedDelegation .nil List.not_mem_nil) ?_
    rw [hfound, hlinkBytes, Time.Duration.map_ofMillis_saturatedMillis, Nat.zero_add]
    exact .pure _

/-! ## Encoding and decoding -/

/-- The nonce that an Interest is sent with. -/
def sentNonce (nonceLength : Nat) (random : Nat → UInt8) (i : Interest) : Bytes :=
  if i.nonce.isEmpty then takeStream random nonceLength else i.nonce

/-- An input above the size limit is refused, any other is decoded. -/
theorem withinSize_of_le {α : Type} {config : PacketConfig}
    {decode : Bytes → Except DecodingError α} {input : Bytes}
    (h : input.length ≤ config.maxPacketSize.toNat) :
    withinSize config decode input = decode input := by
  rw [withinSize, checkSize, if_neg (Nat.not_lt.2 h)]
  rfl

theorem withinSize_eq_ok_iff {α : Type} {config : PacketConfig}
    {decode : Bytes → Except DecodingError α} {input : Bytes} {a : α} :
    withinSize config decode input = .ok a
      ↔ input.length ≤ config.maxPacketSize.toNat ∧ decode input = .ok a := by
  by_cases hsize : input.length ≤ config.maxPacketSize.toNat
  · rw [withinSize_of_le hsize, and_iff_right hsize]
  · refine iff_of_false ?_ fun h => hsize h.1
    rw [withinSize, checkSize, if_pos (Nat.lt_of_not_le hsize)]
    rintro ⟨⟩

/-- An Interest can be encoded if its key locator can. -/
private theorem interestTail_isOk_iff (i : Interest) (nonce : Bytes) :
    (interestTail i nonce).isOk
      = (keyLocatorElement? ElementType.publisherPublicKeyLocator i.keyLocator).isOk := by
  rw [interestTail, selectorsElement?, selectorsValue]
  cases hlocator : keyLocatorElement? ElementType.publisherPublicKeyLocator i.keyLocator with
  | ok locator => cases hasSelectors i <;> rfl
  | error e =>
    -- only a locator that is there can fail, and then there are selectors
    have hhas : hasSelectors i = true := by
      have : i.keyLocator.isAbsent = false := by
        cases hk : i.keyLocator with
        | absent =>
          rw [hk] at hlocator
          cases hlocator
        | key | certificate | digest | name => rfl
      rw [hasSelectors, this]
      simp only [Bool.not_false, Bool.or_true, Bool.true_or]
    rw [hhas]
    rfl

private theorem exists_error_iff {ε α : Type} (result : Except ε α) :
    (∃ e, result = .error e) ↔ result.isOk = false := by
  cases result with
  | error e => exact ⟨fun _ => rfl, fun _ => ⟨e, rfl⟩⟩
  | ok a =>
    constructor
    · rintro ⟨e, he⟩
      cases he
    · exact fun h => nomatch h

theorem encodeInterest_eq (nonceLength : Nat) (random : Nat → UInt8) (i : Interest) :
    encodeInterest nonceLength random i
      = (interestTail i (sentNonce nonceLength random i)).map (interestBlob i) := by
  show (interestTail i (sentNonce nonceLength random i) >>= fun following =>
    .ok (interestBlob i following)) = _
  cases interestTail i (sentNonce nonceLength random i) <;> rfl

/-- What an Interest is encoded as is its blob with the elements after the name. -/
theorem encodeInterest_eq_ok_iff {nonceLength : Nat} {random : Nat → UInt8} {i : Interest}
    {b : SignedBlob} : encodeInterest nonceLength random i = .ok b ↔
      ∃ following, interestTail i (sentNonce nonceLength random i) = .ok following
        ∧ interestBlob i following = b := by
  rw [encodeInterest_eq]
  cases interestTail i (sentNonce nonceLength random i) with
  | error e => exact iff_of_false (by rintro ⟨⟩) (by rintro ⟨_, ⟨⟩, -⟩)
  | ok following =>
    constructor
    · rintro ⟨⟩
      exact ⟨following, rfl, rfl⟩
    · rintro ⟨_, ⟨⟩, rfl⟩
      rfl

theorem encodeInterest_error_iff (nonceLength : Nat) (random : Nat → UInt8) (i : Interest) :
    (∃ e, encodeInterest nonceLength random i = .error e)
      ↔ (∃ bytes, i.keyLocator = .key bytes) ∨ ∃ bytes, i.keyLocator = .certificate bytes := by
  rw [← keyLocatorElement?_error_iff ElementType.publisherPublicKeyLocator, exists_error_iff,
    exists_error_iff, ← interestTail_isOk_iff i (sentNonce nonceLength random i), encodeInterest_eq]
  cases interestTail i (sentNonce nonceLength random i) <;> exact Iff.rfl

/-- Whatever its exclude, an Interest with a whole link or none is decoded from all of its encoding. -/
theorem decodeInterest_asRead_of_encodeInterest {nonceLength : Nat} {random : Nat → UInt8}
    {i : Interest} {b : SignedBlob} (hlink : WholeLink i)
    (h : encodeInterest nonceLength random i = .ok b) (hsize : b.bytes.length < UInt64.size) :
    decodeInterest b.bytes = .ok ({ i.asRead with nonce := sentNonce nonceLength random i }, b) := by
  obtain ⟨following, htail, rfl⟩ := encodeInterest_eq_ok_iff.1 h
  have hrun := (Reads.interest hlink htail).run_whole hsize
  rw [decodeInterest, hrun]
  -- the reader stopped at the end, so that all of the input was consumed
  show Except.ok (_, SignedBlob.mk ((interestBlob i following).bytes.take _) _ _) = _
  rw [List.take_length]

/-- Without a component of the type of the wildcard an Interest is read as its normal form. -/
theorem asRead_of_noWildcardComponent {i : Interest} (h : NoWildcardComponent i) :
    i.asRead = i.normalize := by
  have hentry : ∀ entry ∈ i.exclude.entries, entry.asRead = entry.normalize := by
    intro entry hmem
    cases entry with
    | any => rfl
    | component c => exact if_neg (h c hmem)
  rw [Interest.asRead, Exclude.asRead, List.map_congr_left hentry]
  rfl

theorem decodeInterest_of_encodeInterest {nonceLength : Nat} {random : Nat → UInt8} {i : Interest}
    {b : SignedBlob} (hany : NoWildcardComponent i) (hlink : WholeLink i)
    (h : encodeInterest nonceLength random i = .ok b) (hsize : b.bytes.length < UInt64.size) :
    decodeInterest b.bytes = .ok ({ i.normalize with nonce := sentNonce nonceLength random i }, b) := by
  rw [← asRead_of_noWildcardComponent hany]
  exact decodeInterest_asRead_of_encodeInterest hlink h hsize

/-- Every Interest that can be encoded, and is within the size limit then, is decoded to its normal
form with the nonce that it was sent with, and to the same bytes and signed range. It cannot be
encoded if and only if its key locator holds the key or the certificate. -/
theorem interest_round_trip (config : PacketConfig) (random : Nat → UInt8) (i : Interest) :
    (∀ b, (WireFormat.tlv config).encodeInterest random i = .ok b →
      b.bytes.length ≤ config.maxPacketSize.toNat → WholeLink i → NoWildcardComponent i →
        (WireFormat.tlv config).decodeInterest b.bytes
          = .ok ({ i.normalize with nonce := sentNonce config.nonceLength.toNat random i }, b))
      ∧ ((∃ e, (WireFormat.tlv config).encodeInterest random i = .error e)
        ↔ (∃ bytes, i.keyLocator = .key bytes) ∨ ∃ bytes, i.keyLocator = .certificate bytes) := by
  refine ⟨?_, encodeInterest_error_iff _ random i⟩
  intro b hencode hsize hlink hany
  have hlt : b.bytes.length < UInt64.size := Nat.lt_of_le_of_lt hsize config.maxPacketSize.toNat_lt
  show withinSize config decodeInterest b.bytes = _
  rw [withinSize_of_le hsize]
  exact decodeInterest_of_encodeInterest hany hlink hencode hlt

/-- An Interest with a link, selectors, a lifetime of one and a half milliseconds, and no nonce. -/
def smallInterest : Interest where
  name := ⟨[⟨.other 8, [0x61]⟩]⟩
  keyLocator := .digest [0x01]
  exclude := ⟨[.any, .component (.generic [0x62])]⟩
  answerOrigin := some .stale
  lifetime := some ⟨1500000⟩
  link := [0x06, 0x00]

/-- What `smallInterest` is encoded as if the random bytes are all seven. -/
def smallInterestBlob : SignedBlob where
  bytes := [0x05, 0x1e, 0x07, 0x03, 0x08, 0x01, 0x61, 0x09, 0x0c, 0x0f, 0x03, 0x1d, 0x01, 0x01, 0x10,
    0x05, 0x13, 0x00, 0x08, 0x01, 0x62, 0x0a, 0x04, 0x07, 0x07, 0x07, 0x07, 0x0c, 0x01, 0x01, 0x06,
    0x00]
  signedBegin := 4
  signedEnd := 4

theorem interest_round_trip_small :
    (WireFormat.tlv {}).encodeInterest (fun _ => 7) smallInterest = .ok smallInterestBlob
      ∧ (WireFormat.tlv {}).decodeInterest smallInterestBlob.bytes
        = .ok ({ smallInterest.normalize with nonce := [7, 7, 7, 7] }, smallInterestBlob) := by
  have hencode : (WireFormat.tlv {}).encodeInterest (fun _ => 7) smallInterest
      = .ok smallInterestBlob := rfl
  have hlink : WholeLink smallInterest :=
    .inr ⟨[], [0x06, 0x00], headerForm_header ElementType.data 0, by decide, rfl⟩
  have hany : NoWildcardComponent smallInterest := by
    intro c hc
    simp only [smallInterest, List.mem_cons, List.not_mem_nil, or_false, reduceCtorEq, false_or,
      ExcludeEntry.component.injEq] at hc
    subst hc
    decide
  exact ⟨hencode, (interest_round_trip {} (fun _ => 7) smallInterest).1 smallInterestBlob hencode
    (by decide) hlink hany⟩

end Wire

end NamedData
