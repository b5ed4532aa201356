import NamedData.Proofs.Wire.Acceptance
import NamedData.Proofs.Wire.Control
import NamedData.Proofs.Wire.ControlGrammar

/-!
# What is decoded is in normal form

Readers give the names of codes that have one, no type for the name of a key, durations in whole
milliseconds and instants in whole seconds. So every value that a grammar has is its own normal form,
and what is read back for it is the value itself. A signature that was read has a form on the wire
unless a bound of its validity period is in a year that is written with a sign.
-/

namespace NamedData

/-! ## Codes and durations -/

theorem Component.normalize_component (e : Wire.Element) : e.component.normalize = e.component := by
  rw [Wire.Element.component, normalize, ComponentType.normalize, ComponentType.code_ofCode]

theorem NackReason.code_ofCode (code : UInt64) : (ofCode code).code = code := by
  unfold ofCode
  repeat' split
  all_goals (subst_vars; rfl)

theorem ContentType.code_ofCode (code : UInt64) : (ofCode code).code = code := by
  unfold ofCode
  repeat' split
  all_goals (subst_vars; rfl)

/-- Whole milliseconds lose nothing. -/
theorem Time.Duration.truncate_ofMillis (millis : UInt64) :
    (ofMillis millis).truncate = ofMillis millis := by
  rw [← ofMillis_saturatedMillis, saturatedMillis_ofMillis]

namespace Wire

open Element (concat)

variable {α : Type} {type : UInt64} {es rest : List Element} {e : Element}

/-! ## Fields -/

/-- A field that may be missing has a normal form if its values have. -/
theorem Optional.map_eq {P : Element → α → Prop} {f : α → α} {a : Option α}
    (h : Optional type P es a rest) (hP : ∀ e a, P e a → f a = a) : a.map f = a := by
  cases h with
  | some _ hfield => exact congrArg Option.some (hP _ _ hfield)
  | none => rfl

/-- A duration is a number of milliseconds. -/
theorem map_truncate_ofMillis (millis : Option UInt64) :
    (millis.map Time.Duration.ofMillis).map Time.Duration.truncate
      = millis.map Time.Duration.ofMillis := by
  cases millis with
  | none => rfl
  | some millis => exact congrArg some (Time.Duration.truncate_ofMillis millis)

theorem HoldsName.normalize_eq {n : Name} (h : HoldsName e n) : n.normalize = n := by
  obtain ⟨components, -, rfl⟩ := h
  rw [Name.normalize, List.map_map]
  exact congrArg Name.mk (List.map_congr_left fun e _ => Component.normalize_component e)

theorem KeyLocatorFields.normalize_eq {k : KeyLocator} (h : KeyLocatorFields es k rest) :
    k.normalize = k := by
  cases h with
  | name h =>
    obtain ⟨e, -, -, hname⟩ := h
    rw [KeyLocator.normalize, hname.normalize_eq]
  | digest | absent => rfl

/-- A key locator that may be missing. -/
theorem normalize_getD_absent {found : Option KeyLocator}
    (h : Optional type (Contains KeyLocatorFields) es found rest) :
    (found.getD .absent).normalize = found.getD .absent := by
  cases h with
  | some _ hcontains =>
    obtain ⟨_, _, -, hfields, -⟩ := hcontains
    exact hfields.normalize_eq
  | none => rfl

/-! ## Interests -/

theorem ExcludeEntry.asRead_excludeEntry (e : Element) : e.excludeEntry.asRead = e.excludeEntry := by
  rw [Element.excludeEntry]
  split
  · rfl
  · next hother =>
    have hcode : e.component.type.code ≠ ElementType.any := by
      rw [Element.component, ComponentType.code_ofCode]
      exact hother
    rw [ExcludeEntry.asRead, if_neg hcode, Component.normalize_component]

theorem SelectorsFields.asRead_eq {s : Selectors} (h : SelectorsFields es s rest) :
    s.keyLocator.normalize = s.keyLocator ∧ s.exclude.asRead = s.exclude := by
  obtain ⟨-, -, hlocator, hexclude, -, -⟩ := h
  refine ⟨normalize_getD_absent hlocator, ?_⟩
  cases hexclude with
  | some _ hentries =>
    obtain ⟨items, -, rfl⟩ := hentries
    rw [Option.getD_some, Exclude.asRead, List.map_map]
    exact congrArg Exclude.mk (List.map_congr_left fun e _ => ExcludeEntry.asRead_excludeEntry e)
  | none => rfl

theorem InterestFields.asRead_eq {name : Name} {i : Interest} (h : InterestFields name es i rest)
    (hname : name.normalize = name) : i.asRead = i := by
  obtain ⟨hselectors, -, -, -, -, -, hfound⟩ := h
  next found _ _ _ _ _ s =>
  have hs : s.keyLocator.normalize = s.keyLocator ∧ s.exclude.asRead = s.exclude := by
    rw [hfound]
    cases hselectors with
    | some _ hcontains =>
      obtain ⟨_, _, -, hfields, -⟩ := hcontains
      exact hfields.asRead_eq
    | none => exact ⟨rfl, rfl⟩
  simp only [Interest.asRead, Interest.normalize, hname, hs.1, hs.2, map_truncate_ofMillis]
  cases s.mustBeFresh <;> rfl

theorem InterestPacket.asRead_eq {blob : SignedBlob} {i : Interest} (h : InterestPacket blob i) :
    i.asRead = i := by
  obtain ⟨-, -, -, -, hcomponents, hfields, -, -⟩ := h
  exact hfields.asRead_eq (HoldsName.normalize_eq ⟨_, hcomponents, rfl⟩)

/-! ## Delegations and control messages -/

theorem Contains.normalize_delegation {d : Delegation} (h : Contains DelegationFields e d) :
    d.normalize = d := by
  obtain ⟨_, _, -, ⟨-, _, -, -, hname⟩, -⟩ := h
  rw [Delegation.normalize, hname.normalize_eq]

theorem Row.normalize_delegations {offset : Nat} {entries : List Delegation}
    (h : Row (fun _ => IsDelegation) offset es entries) :
    DelegationSet.normalize ⟨entries⟩ = ⟨entries⟩ := by
  have hmap : entries.map Delegation.normalize = entries := by
    induction h with
    | nil => rfl
    | cons hfirst _ ih => rw [List.map_cons, hfirst.2.normalize_delegation, ih]
  rw [DelegationSet.normalize, hmap]

theorem Contains.normalize_nack {refusal : NetworkNack} (h : Contains NackFields e refusal) :
    refusal.normalize = refusal := by
  obtain ⟨_, _, -, ⟨-⟩, -⟩ := h
  next code =>
  cases code with
  | none => rfl
  | some code =>
    rw [NetworkNack.normalize, NackReason.normalize, Option.map_some, Option.getD_some,
      NackReason.code_ofCode]

theorem Contains.normalize_parameters {p : ControlParameters} (h : Contains ParametersFields e p) :
    p.normalize = p := by
  obtain ⟨_, _, -, ⟨hname, -, -, -, -, -, -, hstrategy, -⟩, -⟩ := h
  have hstrategyName : ∀ e n, Contains NameField e n → Name.normalize n = n := by
    rintro e n ⟨_, _, -, ⟨_, -, -, hn⟩, -⟩
    exact hn.normalize_eq
  rw [ControlParameters.normalize, hname.map_eq fun _ _ => HoldsName.normalize_eq,
    hstrategy.map_eq hstrategyName, map_truncate_ofMillis]

theorem Contains.normalize_response {r : ControlResponse} (h : Contains ResponseFields e r) :
    r.normalize = r := by
  obtain ⟨_, _, -, ⟨-, -, hbody⟩, -⟩ := h
  rw [ControlResponse.normalize, hbody.map_eq fun _ _ => Contains.normalize_parameters]

/-! ## Data packets -/

theorem MetaInfoFields.normalize_eq {m : MetaInfo} (h : MetaInfoFields es m rest) :
    m.normalize = m := by
  obtain ⟨-, -, hfinal⟩ := h
  next contentType _ _ =>
  have hcontentType : ((contentType.map ContentType.ofCode).getD .blob).normalize
      = (contentType.map ContentType.ofCode).getD .blob := by
    cases contentType with
    | none => rfl
    | some code =>
      rw [ContentType.normalize, Option.map_some, Option.getD_some, ContentType.code_ofCode]
  have hcomponent : ∀ e c, Contains ComponentField e c → Component.normalize c = c := by
    rintro e _ ⟨_, _, -, ⟨_, -, rfl⟩, -⟩
    exact Component.normalize_component _
  rw [MetaInfo.normalize, hcontentType, hfinal.map_eq hcomponent, map_truncate_ofMillis]

/-- All but the signature of a Data packet. -/
theorem DataFields.normalize_eq {unsigned : List Element} {d : Data} (h : DataFields unsigned es d rest) :
    { d.normalize with signature := d.signature } = d := by
  obtain ⟨⟨_, -, -, hname⟩, hmetaInfo, -, -, -, -⟩ := h
  next metaInfo _ _ _ =>
  have hmeta : (metaInfo.getD {}).normalize = metaInfo.getD {} := by
    cases hmetaInfo with
    | some _ hcontains =>
      obtain ⟨_, _, -, hfields, -⟩ := hcontains
      exact hfields.normalize_eq
    | none => rfl
  simp only [Data.normalize, hname.normalize_eq, hmeta]

/-! ## Signatures -/

/-- A key locator that was read has a form on the wire. -/
theorem KeyLocatorField.hasForm {k : KeyLocator} (h : KeyLocatorField es k rest) :
    k.HasForm ∧ k.normalize = k := by
  obtain ⟨found, hfound, rfl⟩ := h
  refine ⟨?_, normalize_getD_absent hfound⟩
  cases hfound with
  | some _ hcontains =>
    obtain ⟨_, _, -, hfields, -⟩ := hcontains
    cases hfields <;> trivial
  | none => trivial

/-- An instant is read from the text that the element has for it. -/
theorem HoldsTime.exists_parse {t : Time.Instant} (h : HoldsTime e t) :
    ∃ text, Time.Instant.parse text = .ok t := by
  obtain ⟨text, -, h⟩ := exists_of_bind_eq_ok h
  refine ⟨text, ?_⟩
  cases hparse : Time.Instant.parse text with
  | error fault =>
    simp only [hparse] at h
    cases h
  | ok t' =>
    simp only [hparse] at h
    cases h
    rfl

theorem HoldsTime.asRead_eq {t : Time.Instant} (h : HoldsTime e t) :
    t.asRead = t ∧ t.nanos < 2000000000 := by
  obtain ⟨text, hparse⟩ := h.exists_parse
  exact Time.Instant.asRead_of_parse hparse

/-- Bounds that were read are in whole seconds. -/
theorem ValidityField.asRead_eq {period : ValidityPeriod} (h : ValidityField es period rest) :
    period.asRead = period
      ∧ ∀ first last, period.bounds = some (first, last) → first.nanos < 2000000000
        ∧ last.nanos < 2000000000 := by
  obtain ⟨bounds, hbounds, rfl⟩ := h
  cases hbounds with
  | some _ hcontains =>
    obtain ⟨_, _, -, ⟨⟨_, -, -, hfirst⟩, ⟨_, -, -, hlast⟩⟩, -⟩ := hcontains
    obtain ⟨hfirstEq, hfirstLt⟩ := hfirst.asRead_eq
    obtain ⟨hlastEq, hlastLt⟩ := hlast.asRead_eq
    refine ⟨?_, ?_⟩
    · rw [ValidityPeriod.asRead, Option.map_some]
      dsimp only
      rw [hfirstEq, hlastEq]
    · rintro first last ⟨⟩
      exact ⟨hfirstLt, hlastLt⟩
  | none => exact ⟨rfl, nofun⟩

/-- A signature that was read can be written, and is its own form as it is read. If the bounds of its
validity period are in years of four digits, it has a form that can be read. -/
structure IsRead (s : Signature) : Prop where
  asRead_eq : s.asRead = s
  exists_info : ∃ info, encodeSignatureInfo s = .ok info
  nanos_lt : ∀ period, s.validity? = some period → ∀ first last, period.bounds = some (first, last) →
    first.nanos < 2000000000 ∧ last.nanos < 2000000000
  hasReadableForm : (∀ period, s.validity? = some period → period.IsUnsigned) → s.HasReadableForm

theorem IsRead.withBytes {s : Signature} (h : IsRead s) (bytes : Bytes) : IsRead (s.withBytes bytes) := by
  obtain ⟨hasRead, hinfo, hnanos, hform⟩ := h
  cases s with
  | digestSha256 | generic => exact ⟨rfl, hinfo, hnanos, hform⟩
  | hmacWithSha256 | sha256WithRsa | sha256WithEcdsa =>
    simp only [Signature.asRead, Signature.hmacWithSha256.injEq, Signature.sha256WithRsa.injEq,
      Signature.sha256WithEcdsa.injEq] at hasRead
    refine ⟨?_, hinfo, hnanos, hform⟩
    simp only [Signature.withBytes, Signature.asRead, hasRead.2]

theorem KeyFields.isRead {k : KeyLocator} {period : ValidityPeriod} (h : KeyFields es (k, period) rest) :
    IsRead (.sha256WithRsa [] k period) ∧ IsRead (.sha256WithEcdsa [] k period) := by
  obtain ⟨_, hlocator, hvalidity⟩ := h
  obtain ⟨hform, hk⟩ := hlocator.hasForm
  obtain ⟨hperiod, hnanos⟩ := hvalidity.asRead_eq
  dsimp only at hform hk hperiod hnanos
  obtain ⟨locator, hwrite⟩ := exists_keyLocatorElement? hform ElementType.keyLocator
  have hbounds : ∀ period', some period = some period' → ∀ first last,
      period'.bounds = some (first, last) → first.nanos < 2000000000 ∧ last.nanos < 2000000000 := by
    rintro _ ⟨⟩
    exact hnanos
  constructor <;>
    exact ⟨by rw [Signature.asRead, hk, hperiod], ⟨_, by rw [encodeSignatureInfo, hwrite]; rfl⟩,
      hbounds, fun hunsigned => ⟨hform, hunsigned period rfl⟩⟩

theorem DescribesScheme.isRead {s : Signature} (h : DescribesScheme e.bytes e s) : IsRead s := by
  obtain ⟨htype, hvalue, hnumber, hcode, hfields⟩ := h
  next number code after =>
  generalize hknown : SignatureType.ofCode code = known at hfields
  cases hfields with
  | digestSha256 => exact ⟨rfl, ⟨_, rfl⟩, by rintro _ ⟨⟩, fun _ => trivial⟩
  | hmacWithSha256 hk =>
    obtain ⟨_, _, -, hlocator, -⟩ := hk
    obtain ⟨hform, hk⟩ := hlocator.hasForm
    obtain ⟨locator, hwrite⟩ := exists_keyLocatorElement? hform ElementType.keyLocator
    exact ⟨by rw [Signature.asRead, hk], ⟨_, by rw [encodeSignatureInfo, hwrite]; rfl⟩,
      by rintro _ ⟨⟩, fun _ => hform⟩
  | sha256WithRsa hkey =>
    obtain ⟨_, _, -, hfields, -⟩ := hkey
    exact hfields.isRead.1
  | sha256WithEcdsa hkey =>
    obtain ⟨_, _, -, hfields, -⟩ := hkey
    exact hfields.isRead.2
  | @other code' =>
    obtain rfl : code' = code := by
      unfold SignatureType.ofCode at hknown
      grind
    have hnonempty : ¬ e.bytes.isEmpty = true := by
      rw [List.isEmpty_iff]
      exact e.startsWith.ne_nil
    refine ⟨rfl, ⟨_, if_neg hnonempty⟩, by rintro _ ⟨⟩, fun _ => ⟨code', rfl, hknown, number.value,
      number.bytes, after, Integer.decode?_eq_some_iff.2 hcode, hnumber ▸ number.isElement, ?_⟩⟩
    rw [← hvalue, ← htype]
    exact e.isElement

end Wire

end NamedData
