import NamedData.Matching
import NamedData.Proofs.Name.Order

/-!
# What answers an Interest

`Interest.Wants` says which packets an Interest asks for: it looks at the full name and the signature. The
matcher knows the full name only at the cost of an encoding, and asks for it where the digest matters, and
at most once (`matchesData_asksOnce`). Whenever it comes to an answer, the answer is right (`wants_iff_of_matchesData`); it fails only if the full
name cannot be had (`error_of_matchesData`), and it does not ask for it if the digest cannot matter
(`exists_matchesData`). The matcher of names alone takes the same view of all names that are long enough
(`Wants.matchesName` and `Wants.of_matchesName`).
-/

namespace NamedData

/-! ## Names under a digest -/

namespace Name

theorem components_withDigest (n : Name) (digest : Bytes) :
    (n.withDigest digest).components = n.components ++ [⟨.implicitSha256Digest, digest⟩] := rfl

@[simp] theorem length_withDigest (n : Name) (digest : Bytes) :
    (n.withDigest digest).length = n.length + 1 := by
  simp [length, components_withDigest]

theorem length_le_of_starts {n other : Name} (h : n.components <+: other.components) :
    n.length ≤ other.length :=
  h.length_le

/-- A name of the same length is a prefix only of itself. -/
theorem prefix_iff_eq {n other : Name} (hlength : n.length = other.length) :
    n.components <+: other.components ↔ n = other := by
  constructor
  · intro h
    obtain ⟨components⟩ := n
    obtain ⟨components'⟩ := other
    simpa using h.eq_of_length hlength
  · rintro rfl
    exact List.prefix_refl _

/-- The digest does not matter to a name that does not reach it. -/
theorem prefix_withDigest_iff {n other : Name} (hlength : n.length ≤ other.length) (digest : Bytes) :
    n.components <+: (other.withDigest digest).components ↔ n.components <+: other.components := by
  rw [components_withDigest]
  constructor
  · intro h
    exact List.prefix_of_prefix_length_le h (List.prefix_append _ _) hlength
  · intro h
    exact h.trans (List.prefix_append _ _)

/-- The components in front of the digest are those of the name. -/
theorem getElem?_withDigest {n : Name} {k : Nat} (hk : k < n.length) (digest : Bytes) :
    (n.withDigest digest).components[k]? = n.components[k]? :=
  List.getElem?_append_left hk

end Name

namespace Interest

/-- A packet with this full name and signature is what the Interest asks for. -/
structure Wants (i : Interest) (full : Name) (s : Signature) : Prop where
  startsName : i.name.components <+: full.components
  least : ∀ least, i.minSuffixComponents = some least → least.toNat ≤ full.length - i.name.length
  largest : ∀ largest, i.maxSuffixComponents = some largest → full.length - i.name.length ≤ largest.toNat
  notExcluded : ∀ c, full.components[i.name.length]? = some c → i.exclude.contains c = false
  signed : i.keyLocator = .absent ∨ s.keyLocator? = some i.keyLocator

/-! ## The parts of the matcher -/

section Parts

variable {i : Interest} {d : Data}

theorem admitsSuffix_iff {length : Nat} : i.admitsSuffix length = true ↔
    (∀ least, i.minSuffixComponents = some least → least.toNat ≤ length)
      ∧ ∀ largest, i.maxSuffixComponents = some largest → length ≤ largest.toNat := by
  simp [admitsSuffix, Option.all_eq_true]

theorem acceptsSignature_iff {s : Signature} :
    i.acceptsSignature s = true ↔ i.keyLocator = .absent ∨ s.keyLocator? = some i.keyLocator := by
  have habsent : i.keyLocator.isAbsent = true ↔ i.keyLocator = .absent := by
    cases i.keyLocator <;> simp [KeyLocator.isAbsent]
  simp [acceptsSignature, habsent]

theorem contains_of_entries_eq_nil (h : i.exclude.entries = []) (c : Component) : i.exclude.contains c = false := by
  simp [Exclude.contains, h, Exclude.excludes]

theorem endsInDigest_withDigest (n : Name) (digest : Bytes) : endsInDigest (n.withDigest digest) = true := by
  simp [endsInDigest, Name.components_withDigest]

variable {ε : Type} {fullName : Except ε Name} {digest : Bytes}

/-- What the matcher finds out about the name is right, whatever is known of the full name. -/
theorem startsFullName_eq_ok {b : Bool} (hlength : i.name.length ≤ d.name.length + 1)
    (hfull : ∀ full, fullName = .ok full → full = d.name.withDigest digest)
    (h : i.startsFullName d (d.name.length + 1) fullName = .ok b) :
    b = true ↔ i.name.components <+: (d.name.withDigest digest).components := by
  unfold startsFullName at h
  by_cases hreach : i.name.length = d.name.length + 1
  · have hsame : i.name.length = (d.name.withDigest digest).length := by simp [hreach]
    rw [Name.prefix_iff_eq hsame]
    rw [if_pos hreach] at h
    by_cases hdigest : endsInDigest i.name = true
    · rw [if_pos hdigest] at h
      cases fullName with
      | error e => cases h
      | ok full =>
        cases h
        simp [hfull full rfl]
    · rw [if_neg hdigest] at h
      cases h
      -- the full name ends in a digest, the Interest's name does not
      refine iff_of_false (by simp) fun heq => hdigest ?_
      rw [heq]
      exact endsInDigest_withDigest _ _
  · rw [if_neg hreach] at h
    cases h
    rw [Name.isPrefixOf_iff, Name.prefix_withDigest_iff (by omega)]

/-- What the matcher finds out about the next component is right, whatever is known of the full name. -/
theorem excludesNext_eq_ok {b : Bool} (hlength : i.name.length ≤ d.name.length + 1)
    (hfull : ∀ full, fullName = .ok full → full = d.name.withDigest digest)
    (h : i.excludesNext d (d.name.length + 1) fullName = .ok b) :
    b = false ↔ ∀ c, (d.name.withDigest digest).components[i.name.length]? = some c →
      i.exclude.contains c = false := by
  unfold excludesNext at h
  by_cases hnothing : i.exclude.entries = []
  · rw [if_pos (by simp [hnothing])] at h
    cases h
    simp [contains_of_entries_eq_nil hnothing]
  · by_cases hend : i.name.length = d.name.length + 1
    · rw [if_pos (by simp [hend])] at h
      cases h
      have hnone : (d.name.withDigest digest).components[i.name.length]? = none := by
        apply List.getElem?_eq_none
        exact Nat.le_of_eq (by rw [hend]; exact Name.length_withDigest _ _)
      simp [hnone]
    · rw [if_neg (by simp [hnothing]; omega)] at h
      by_cases hdigest : i.name.length + 1 = d.name.length + 1
      · rw [if_pos hdigest] at h
        cases fullName with
        | error e => cases h
        | ok full =>
          cases h
          simp [hfull full rfl, Option.any_eq_false]
      · rw [if_neg hdigest] at h
        cases h
        rw [Name.getElem?_withDigest (by omega)]
        simp [Option.any_eq_false]

end Parts

/-! ## The full name is asked for once -/

/-- A question about a name is answered without asking for the name, or by asking for it once, in
whatever way it can be had. -/
def AsksOnce (question : ∀ {m : Type → Type} [Monad m], m Name → m Bool) : Prop :=
  (∃ answer, ∀ {m : Type → Type} [Monad m] [LawfulMonad m] (name : m Name),
    question name = pure answer)
  ∨ ∃ answer : Name → Bool, ∀ {m : Type → Type} [Monad m] [LawfulMonad m] (name : m Name),
    question name = answer <$> name

theorem excludesNext_asksOnce (i : Interest) (d : Data) (length : Nat) :
    AsksOnce (i.excludesNext d length) := by
  by_cases hnothing : (i.exclude.entries.isEmpty || decide (length ≤ i.name.length)) = true
  · exact .inl ⟨false, fun _ => if_pos hnothing⟩
  · by_cases hnext : i.name.length + 1 = length
    · refine .inr ⟨fun full => full.components[i.name.length]?.any i.exclude.contains, fun _ => ?_⟩
      simp only [excludesNext, if_neg hnothing, if_pos hnext, map_eq_pure_bind]
    · refine .inl ⟨d.name.components[i.name.length]?.any i.exclude.contains, fun _ => ?_⟩
      simp only [excludesNext, if_neg hnothing, if_neg hnext]

theorem matchesData_asksOnce (i : Interest) (d : Data) : AsksOnce (i.matchesData d) := by
  unfold matchesData
  by_cases hcount : (decide (d.name.length + 1 < i.name.length)
      || !i.admitsSuffix (d.name.length + 1 - i.name.length)) = true
  · exact .inl ⟨false, fun _ => if_pos hcount⟩
  · simp only [if_neg hcount]
    by_cases hreach : i.name.length = d.name.length + 1
    · by_cases hdigest : endsInDigest i.name = true
      · -- the digest is asked for here, and nothing is left to be excluded
        refine .inr ⟨fun full => i.name == full && i.acceptsSignature d.signature, fun name => ?_⟩
        simp only [startsFullName, excludesNext, hreach, hdigest, if_true, Nat.le_refl, decide_true,
          Bool.or_true, bind_assoc, pure_bind, map_eq_pure_bind]
        refine bind_congr fun full => ?_
        cases i.name == full <;> simp
      · refine .inl ⟨false, fun _ => ?_⟩
        simp [startsFullName, hreach, hdigest]
    · simp only [startsFullName, if_neg hreach]
      by_cases hstart : i.name.isPrefixOf d.name = true
      · obtain ⟨excluded, hexcludes⟩ | ⟨excluded, hexcludes⟩ :=
          excludesNext_asksOnce i d (d.name.length + 1)
        · refine .inl ⟨!excluded && i.acceptsSignature d.signature, fun name => ?_⟩
          cases excluded <;> simp [hstart, hexcludes]
        · refine .inr ⟨fun full => !excluded full && i.acceptsSignature d.signature, fun name => ?_⟩
          simp only [hstart, hexcludes, map_eq_pure_bind, pure_bind, bind_assoc, Bool.not_true,
            Bool.false_eq_true, if_false]
          refine bind_congr fun full => ?_
          cases excluded full <;> simp
      · refine .inl ⟨false, fun _ => ?_⟩
        simp [hstart]

/-- The matcher fails only if the full name cannot be had. -/
theorem error_of_matchesData {i : Interest} {d : Data} {ε : Type} {fullName : Except ε Name} {e : ε}
    (h : i.matchesData d fullName = .error e) : fullName = .error e := by
  obtain ⟨answer, hanswer⟩ | ⟨answer, hanswer⟩ := matchesData_asksOnce i d
  · have hpure : i.matchesData d fullName = pure answer := hanswer _
    rw [hpure] at h
    cases h
  · have hmap : i.matchesData d fullName = answer <$> fullName := hanswer _
    rw [hmap] at h
    cases fullName with
    | error e' =>
      cases h
      rfl
    | ok full => cases h

/-! ## The answer -/

section Answer

variable {i : Interest} {d : Data} {ε : Type} {fullName : Except ε Name}

/-- The matcher looks at the number of components, the name, the next component and the signature in
turn. -/
theorem matchesData_eq : i.matchesData d fullName =
    if d.name.length + 1 < i.name.length
        ∨ i.admitsSuffix (d.name.length + 1 - i.name.length) = false then .ok false
    else
      match i.startsFullName d (d.name.length + 1) fullName with
      | .error e => .error e
      | .ok false => .ok false
      | .ok true =>
        match i.excludesNext d (d.name.length + 1) fullName with
        | .error e => .error e
        | .ok true => .ok false
        | .ok false => .ok (i.acceptsSignature d.signature) := by
  unfold matchesData
  by_cases hcount : d.name.length + 1 < i.name.length
      ∨ i.admitsSuffix (d.name.length + 1 - i.name.length) = false
  · rw [if_pos hcount, if_pos (by simpa using hcount)]
    rfl
  · rw [if_neg hcount, if_neg (by simpa using hcount)]
    cases i.startsFullName d (d.name.length + 1) fullName with
    | error e => rfl
    | ok starts =>
      cases starts with
      | false => rfl
      | true =>
        cases i.excludesNext d (d.name.length + 1) fullName with
        | error e => rfl
        | ok excluded => cases excluded <;> rfl

/-- An answer of the matcher is right under every digest that the full name can have. -/
theorem wants_iff_of_matchesData {digest : Bytes} {answer : Bool}
    (hfull : ∀ full, fullName = .ok full → full = d.name.withDigest digest)
    (h : i.matchesData d fullName = .ok answer) :
    answer = true ↔ i.Wants (d.name.withDigest digest) d.signature := by
  have hcount : (d.name.withDigest digest).length = d.name.length + 1 := Name.length_withDigest _ _
  rw [matchesData_eq] at h
  split at h
  · next hmiss =>
    cases h
    refine iff_of_false (by simp) fun hwants => ?_
    have hle := Name.length_le_of_starts hwants.startsName
    rcases hmiss with hmiss | hmiss
    · omega
    · have hadmits := admitsSuffix_iff.2 ⟨hwants.least, hwants.largest⟩
      rw [hcount, hmiss] at hadmits
      cases hadmits
  · next hfits =>
    simp only [not_or, Nat.not_lt, Bool.not_eq_false, admitsSuffix_iff] at hfits
    obtain ⟨hlength, hleast, hlargest⟩ := hfits
    split at h
    · cases h
    · next hstarts =>
      cases h
      have hnot := startsFullName_eq_ok hlength hfull hstarts
      exact iff_of_false (by simp) fun hwants => by simpa using hnot.2 hwants.startsName
    · next hstarts =>
      have hstart := (startsFullName_eq_ok hlength hfull hstarts).1 rfl
      split at h
      · cases h
      · next hexcludes =>
        cases h
        have hnot := excludesNext_eq_ok hlength hfull hexcludes
        exact iff_of_false (by simp) fun hwants => by simpa using hnot.2 hwants.notExcluded
      · next hexcludes =>
        cases h
        have hnext := (excludesNext_eq_ok hlength hfull hexcludes).1 rfl
        rw [acceptsSignature_iff]
        constructor
        · intro hsigned
          exact ⟨hstart, hcount ▸ hleast, hcount ▸ hlargest, hnext, hsigned⟩
        · intro hwants
          exact hwants.signed

/-- The digest is not looked at if the Interest's name is too short to reach it, and nothing next to it is
excluded. -/
theorem exists_matchesData (hlength : i.name.length ≤ d.name.length)
    (hnext : i.exclude.entries = [] ∨ i.name.length < d.name.length) :
    ∃ answer, i.matchesData d fullName = .ok answer := by
  have hstarts : i.startsFullName d (d.name.length + 1) fullName
      = .ok (i.name.isPrefixOf d.name) := by
    unfold startsFullName
    rw [if_neg (by omega)]
    rfl
  have hexcludes : ∃ excluded, i.excludesNext d (d.name.length + 1) fullName = .ok excluded := by
    unfold excludesNext
    rcases hnext with hnothing | hshorter
    · exact ⟨false, if_pos (by simp [hnothing])⟩
    · by_cases hnothing : i.exclude.entries = []
      · exact ⟨false, if_pos (by simp [hnothing])⟩
      · refine ⟨d.name.components[i.name.length]?.any i.exclude.contains, ?_⟩
        rw [if_neg (by simp [hnothing]; omega), if_neg (by omega)]
        rfl
  obtain ⟨excluded, hexcludes⟩ := hexcludes
  rw [matchesData_eq, hstarts, hexcludes]
  split
  · exact ⟨_, rfl⟩
  · cases i.name.isPrefixOf d.name <;> cases excluded <;> exact ⟨_, rfl⟩

/-! ## Names alone -/

variable {n : Name} {digest : Bytes} {s : Signature}

theorem matchesName_iff : i.matchesName n = true ↔
    i.name.components <+: n.components
      ∧ ((∀ least, i.minSuffixComponents = some least → least.toNat ≤ n.length + 1 - i.name.length)
        ∧ ∀ largest, i.maxSuffixComponents = some largest →
          n.length + 1 - i.name.length ≤ largest.toNat)
      ∧ ∀ c, n.components[i.name.length]? = some c → i.exclude.contains c = false := by
  rw [← admitsSuffix_iff, ← Name.isPrefixOf_iff]
  simp [matchesName, Option.any_eq_false, and_assoc]

/-- A packet that is wanted has a name that matches, if that is long enough. -/
theorem Wants.matchesName (h : i.Wants (n.withDigest digest) s) (hlength : i.name.length ≤ n.length) :
    i.matchesName n = true := by
  have hcount : (n.withDigest digest).length = n.length + 1 := Name.length_withDigest _ _
  refine matchesName_iff.2 ⟨(Name.prefix_withDigest_iff hlength digest).1 h.startsName,
    ⟨hcount ▸ h.least, hcount ▸ h.largest⟩, fun c hc => h.notExcluded c ?_⟩
  obtain ⟨hshorter, -⟩ := List.getElem?_eq_some_iff.1 hc
  rwa [Name.getElem?_withDigest hshorter]

/-- A packet whose name matches is wanted, if neither the signature nor the digest matters. -/
theorem Wants.of_matchesName (h : i.matchesName n = true) (habsent : i.keyLocator = .absent)
    (hnext : i.exclude.entries = [] ∨ i.name.length < n.length) :
    i.Wants (n.withDigest digest) s := by
  have hcount : (n.withDigest digest).length = n.length + 1 := Name.length_withDigest _ _
  obtain ⟨hstart, ⟨hleast, hlargest⟩, hexcludes⟩ := matchesName_iff.1 h
  have hlength := Name.length_le_of_starts hstart
  refine ⟨(Name.prefix_withDigest_iff hlength digest).2 hstart, hcount ▸ hleast, hcount ▸ hlargest,
    fun c hc => ?_, .inl habsent⟩
  rcases hnext with hnothing | hshorter
  · exact contains_of_entries_eq_nil hnothing c
  · rw [Name.getElem?_withDigest hshorter] at hc
    exact hexcludes c hc

end Answer

end Interest

end NamedData
