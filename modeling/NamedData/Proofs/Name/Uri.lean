import NamedData.Name.Uri
import NamedData.Proofs.Name.Escape
import NamedData.Proofs.Text.Numeral
import NamedData.Proofs.Text.Segments

/-!
# Names are read back from their text

Each component is read back from its segment: the words of digests and the equals sign behind a type stand
where no value shows one. A path is cut into its segments, since none of them holds a slash or is empty. What
may stand around a path, blanks, a scheme and an authority (`Address`), is taken off by the slashes and the
colon that delimit it. So names are read back wherever they are written (`ofUri_toUri`).
-/

namespace NamedData

open Text (isBlank trim trimStart splitOnce segments stripStart)

/-! ## Components -/

namespace Component

/-- If the component is named a digest, it holds as many bytes as a digest has. -/
def HasDigestLength (c : Component) : Prop :=
  c.type = .implicitSha256Digest ∨ c.type = .parametersSha256Digest → c.value.length = digestLength

variable {c : Component} {d : Char}

/-! ### Characters of a segment -/

theorem mem_word {word : List Char} (hword : word = implicitDigestWord ∨ word = parametersDigestWord)
    (h : d ∈ word) : Name.isShown d = true ∨ d = '=' := by
  have hall : word.all (fun d => Name.isShown d || d = '=') = true := by
    rcases hword with rfl | rfl <;> decide
  simpa using List.all_eq_true.1 hall d h

/-- Nothing but the equals sign stands in a segment that may not stand in an escaped value. -/
theorem isShown_of_mem_segment (h : d ∈ c.segment) : Name.isShown d = true ∨ d = '=' := by
  unfold segment at h
  split at h
  · exact (List.mem_append.1 h).elim (mem_word (.inl rfl)) fun hd => .inl (Name.isShown_of_mem_hex hd)
  · exact (List.mem_append.1 h).elim (mem_word (.inr rfl)) fun hd => .inl (Name.isShown_of_mem_hex hd)
  · exact .inl (Name.isShown_of_mem_escape h)
  · rcases List.mem_append.1 h with hd | hd
    · exact .inl (Name.isShown_of_isDigit (Text.Numeral.isDigit_of_mem_render hd))
    · rcases List.mem_cons.1 hd with rfl | hd
      · exact .inr rfl
      · exact .inl (Name.isShown_of_mem_escape hd)

theorem not_mem_segment (hshown : Name.isShown d = false) (hne : d ≠ '=') : d ∉ c.segment := by
  intro h
  rcases isShown_of_mem_segment h with hd | hd
  · rw [hshown] at hd
    cases hd
  · exact hne hd

theorem not_isBlank_of_mem_segment (h : d ∈ c.segment) : isBlank d = false := by
  rcases isShown_of_mem_segment h with hd | rfl
  · exact Name.not_isBlank_of_isShown hd
  · decide

theorem segment_ne_nil (c : Component) : c.segment ≠ [] := by
  obtain ⟨type, value⟩ := c
  cases type with
  | implicitSha256Digest => exact List.append_ne_nil_of_left_ne_nil (by decide) _
  | parametersSha256Digest => exact List.append_ne_nil_of_left_ne_nil (by decide) _
  | generic => exact Name.escape_ne_nil value
  | other code => exact List.append_ne_nil_of_right_ne_nil _ (List.cons_ne_nil _ _)

/-! ### Reading a segment -/

theorem ofHexDigest_encode {type : ComponentType} {value : Bytes} (h : value.length = digestLength) :
    ofHexDigest type (Text.Hex.encode value) = .ok ⟨type, value⟩ := by
  rw [ofHexDigest, Text.Hex.decode_encode]
  exact if_pos h

theorem splitType_escape (value : Bytes) :
    splitType (Name.escape value) = .ok (.generic, Name.escape value) := by
  rw [splitType, Text.splitOnce_eq_none (Name.equals_not_mem_escape value)]

/-- The digits before the equals sign are the code of the type. -/
theorem splitType_code (code : UInt64) (escaped : List Char) :
    splitType (Text.Numeral.render code.toNat ++ '=' :: escaped) = .ok (.ofCode code, escaped) := by
  have hdigits : ∀ d ∈ Text.Numeral.render code.toNat, Text.Numeral.isDigit d = true :=
    fun _ => Text.Numeral.isDigit_of_mem_render
  have hno : '=' ∉ Text.Numeral.render code.toNat := fun h => absurd (hdigits _ h) (by decide)
  have hcode : Text.Numeral.render code.toNat ≠ [] ∧
      (Text.Numeral.render code.toNat).all Text.Numeral.isDigit := by
    exact ⟨Text.Numeral.render_ne_nil _, by simpa using hdigits⟩
  simp only [splitType, Text.splitOnce_append hno, if_pos hcode,
    Text.Numeral.read_render code.toNat_lt_size, UInt64.ofNat_toNat]

/-- A segment without a word of digests is a type and an escaped value. -/
theorem ofSegment_of_splitType {text : List Char} {type : ComponentType} {value : Bytes}
    (himplicit : stripStart implicitDigestWord text = none)
    (hparameters : stripStart parametersDigestWord text = none)
    (h : splitType text = .ok (type, Name.escape value)) : ofSegment text = .ok (some ⟨type, value⟩) := by
  simp only [ofSegment, himplicit, hparameters, h, bind, Except.bind, Name.unescape_escape]

theorem ofSegment_segment (h : c.HasDigestLength) : ofSegment c.segment = .ok (some c.normalize) := by
  obtain ⟨type, value⟩ := c
  cases type with
  | implicitSha256Digest =>
    show ofSegment (implicitDigestWord ++ Text.Hex.encode value) = _
    simp only [ofSegment, Text.stripStart_append, ofHexDigest_encode (h (.inl rfl))]
    rfl
  | parametersSha256Digest =>
    show ofSegment (parametersDigestWord ++ Text.Hex.encode value) = _
    have hother : stripStart implicitDigestWord (parametersDigestWord ++ Text.Hex.encode value) = none :=
      Text.stripStart_of_head (by decide)
    simp only [ofSegment, hother, Text.stripStart_append, ofHexDigest_encode (h (.inr rfl))]
    rfl
  | generic =>
    have hno := Name.equals_not_mem_escape value
    exact ofSegment_of_splitType (Text.stripStart_of_not_mem (by decide) hno)
      (Text.stripStart_of_not_mem (by decide) hno) (splitType_escape value)
  | other code =>
    cases hrender : Text.Numeral.render code.toNat with
    | nil => exact absurd hrender (Text.Numeral.render_ne_nil _)
    | cons d digits =>
      have hd : Text.Numeral.isDigit d = true :=
        Text.Numeral.isDigit_of_mem_render (hrender ▸ List.mem_cons_self)
      have htype := splitType_code code (Name.escape value)
      rw [hrender] at htype
      show ofSegment (Text.Numeral.render code.toNat ++ '=' :: Name.escape value) = _
      rw [hrender]
      -- the words of digests start with letters
      exact ofSegment_of_splitType (Text.stripStart_of_head (by rintro rfl; cases hd))
        (Text.stripStart_of_head (by rintro rfl; cases hd)) htype

end Component

/-! ## Paths -/

namespace Name

variable {n : Name}

theorem ofSegments_map {components : List Component} (h : ∀ c ∈ components, c.HasDigestLength) :
    ofSegments (components.map Component.segment) = .ok (components.map Component.normalize) := by
  induction components with
  | nil => rfl
  | cons c components ih =>
    have hfirst := Component.ofSegment_segment (h c List.mem_cons_self)
    have hothers := ih fun d hd => h d (List.mem_cons_of_mem _ hd)
    simp only [List.map_cons, ofSegments, hfirst, hothers]
    rfl

theorem path_cons (c : Component) (others : List Component) :
    path ⟨c :: others⟩ = '/' :: (c.segment ++ (others.map Component.segment).flatMap ('/' :: ·)) := by
  simp [path, List.flatMap_map]

/-- A path starts with a slash, which no other slash follows. -/
theorem path_eq_cons (n : Name) : ∃ rest, n.path = '/' :: rest ∧ ∀ tail, rest ≠ '/' :: tail := by
  obtain ⟨components⟩ := n
  cases components with
  | nil => exact ⟨[], rfl, nofun⟩
  | cons c others =>
    refine ⟨_, path_cons c others, fun tail h => ?_⟩
    cases hsegment : c.segment with
    | nil => exact absurd hsegment (Component.segment_ne_nil c)
    | cons d segment =>
      rw [hsegment] at h
      cases h
      exact Component.not_mem_segment (by decide) (by decide) (hsegment ▸ List.mem_cons_self)

theorem not_isBlank_of_mem_path {d : Char} (h : d ∈ n.path) : isBlank d = false := by
  have hslash : isBlank '/' = false := by decide
  unfold path at h
  split at h
  · rw [List.mem_singleton.1 h, hslash]
  · obtain ⟨c, -, hd⟩ := List.mem_flatMap.1 h
    rcases List.mem_cons.1 hd with rfl | hd
    · exact hslash
    · exact Component.not_isBlank_of_mem_segment hd

/-- Whatever stands before a path, no blank is at the end. -/
theorem not_isBlank_last {start : List Char} {d : Char} (h : (start ++ n.path).getLast? = some d) :
    isBlank d = false := by
  obtain ⟨rest, hpath, -⟩ := n.path_eq_cons
  have hne : n.path ≠ [] := by simp [hpath]
  rw [List.getLast?_append, List.getLast?_eq_some_getLast hne, Option.some_or,
    ← List.getLast?_eq_some_getLast hne] at h
  exact not_isBlank_of_mem_path (List.mem_of_getLast? h)

/-- A text is read by the segments of its path, which is what follows its first slash. -/
theorem ofUriText_eq {text : List Char} (hpath : dropAuthority (dropScheme (trim text)) = n.path.tail) :
    ofUriText text = Name.mk <$> ofSegments (n.components.map Component.segment) := by
  obtain ⟨components⟩ := n
  cases components with
  | nil =>
    simp only [ofUriText, hpath]
    rfl
  | cons c others =>
    have hno : ∀ c : Component, '/' ∉ c.segment := fun c =>
      Component.not_mem_segment (by decide) (by decide)
    have hne : (c.segment ++ (others.map Component.segment).flatMap ('/' :: ·)).isEmpty = false := by
      simp [Component.segment_ne_nil]
    have hsegments := Text.segments_flatMap (hno c)
      (show ∀ piece ∈ others.map Component.segment, '/' ∉ piece by simp [hno])
    rw [path_cons, List.tail_cons] at hpath
    simp only [ofUriText, hpath, hne, hsegments]
    rfl

theorem ofUriText_of_path {text : List Char} (h : ∀ c ∈ n.components, c.HasDigestLength)
    (hpath : dropAuthority (dropScheme (trim text)) = n.path.tail) : ofUriText text = .ok n.normalize := by
  rw [ofUriText_eq hpath, ofSegments_map h]
  rfl

/-! ## Schemes -/

section Scheme

variable {before scheme gap rest after : List Char}

/-- A colon behind a slash ends no scheme. -/
theorem dropScheme_slash (rest : List Char) : dropScheme ('/' :: rest) = '/' :: rest := by
  unfold dropScheme splitOnce
  cases splitOnce ':' rest <;> simp

theorem dropScheme_colon (hcolon : ':' ∉ scheme) (hslash : '/' ∉ scheme) :
    dropScheme (scheme ++ ':' :: rest) = trim rest := by
  rw [dropScheme, Text.splitOnce_append hcolon]
  exact if_neg hslash

variable (hbefore : ∀ c ∈ before, isBlank c = true) (hafter : ∀ c ∈ after, isBlank c = true)
  (hlast : ∀ d, ('/' :: rest).getLast? = some d → isBlank d = false)

include hbefore hafter hlast

theorem trim_slash : trim (before ++ ('/' :: rest ++ after)) = '/' :: rest := by
  have htrim : trim (before ++ (([] ++ '/' :: rest) ++ after)) = trimStart [] ++ '/' :: rest :=
    Text.trim_of_mark (by decide) hbefore hafter hlast
  exact htrim

theorem dropScheme_trim_slash : dropScheme (trim (before ++ ('/' :: rest ++ after))) = '/' :: rest := by
  rw [trim_slash hbefore hafter hlast, dropScheme_slash]

/-- A scheme may have blanks at its start, which are trimmed with those before it, and behind its colon. -/
theorem dropScheme_trim_colon (hcolon : ':' ∉ scheme) (hslash : '/' ∉ scheme)
    (hgap : ∀ c ∈ gap, isBlank c = true) :
    dropScheme (trim (before ++ (scheme ++ ':' :: (gap ++ '/' :: rest) ++ after))) = '/' :: rest := by
  have hcolon' : ':' ∉ trimStart scheme := fun h => hcolon (Text.mem_of_mem_trimStart h)
  have hslash' : '/' ∉ trimStart scheme := fun h => hslash (Text.mem_of_mem_trimStart h)
  have htrim : trim (before ++ (scheme ++ ':' :: (gap ++ '/' :: rest) ++ after)) =
      trimStart scheme ++ ':' :: (gap ++ '/' :: rest) := by
    refine Text.trim_of_mark (by decide) hbefore hafter fun d hd => hlast d ?_
    simpa [List.getLast?_append, List.getLast?_cons] using hd
  have hpath : trim (gap ++ ('/' :: rest ++ [])) = '/' :: rest :=
    trim_slash hgap (by simp) hlast
  rw [List.append_nil] at hpath
  rw [htrim, dropScheme_colon hcolon' hslash', hpath]

end Scheme

/-! ## What stands around a path -/

/-- What may stand around the text of a name. -/
structure Address where
  /-- Blanks at the start. -/
  before : List Char := []
  /-- What a colon ends. -/
  scheme : Option (List Char) := none
  /-- Blanks behind the colon. -/
  gap : List Char := []
  /-- What two slashes start. -/
  authority : Option (List Char) := none
  /-- Blanks at the end. -/
  after : List Char := []
  isBlank_before : ∀ c ∈ before, isBlank c = true := by simp
  scheme_plain : ∀ s ∈ scheme, ':' ∉ s ∧ '/' ∉ s := by simp
  isBlank_gap : ∀ c ∈ gap, isBlank c = true := by simp
  authority_plain : ∀ a ∈ authority, '/' ∉ a := by simp
  isBlank_after : ∀ c ∈ after, isBlank c = true := by simp

namespace Address

/-- A scheme, its colon and the blanks behind it. -/
def schemeText (a : Address) : List Char :=
  match a.scheme with
  | none => []
  | some scheme => scheme ++ ':' :: a.gap

/-- An authority behind its slashes. -/
def authorityText (a : Address) : List Char :=
  match a.authority with
  | none => []
  | some authority => '/' :: '/' :: authority

/-- The text of a name at an address. -/
def uri (a : Address) (n : Name) : String :=
  String.ofList (a.before ++ a.schemeText ++ a.authorityText) ++ n.toUri ++ String.ofList a.after

variable (a : Address) (n : Name)

theorem toList_uri : (a.uri n).toList =
    a.before ++ (a.schemeText ++ ((a.authorityText ++ n.path) ++ a.after)) := by
  simp [uri, toUri]

/-- An authority and a path start with a slash. -/
theorem exists_slash : ∃ rest, a.authorityText ++ n.path = '/' :: rest := by
  obtain ⟨rest, hpath, -⟩ := n.path_eq_cons
  unfold authorityText
  cases a.authority with
  | none => exact ⟨rest, hpath⟩
  | some authority => exact ⟨_, rfl⟩

theorem dropAuthority_path : dropAuthority (a.authorityText ++ n.path) = n.path.tail := by
  obtain ⟨rest, hpath, hrest⟩ := n.path_eq_cons
  rw [hpath]
  unfold authorityText
  cases hauthority : a.authority with
  | none =>
    show dropAuthority ('/' :: rest) = rest
    unfold dropAuthority
    split <;> simp_all
  | some authority =>
    have hplain : '/' ∉ authority := a.authority_plain authority hauthority
    show dropAuthority ('/' :: '/' :: (authority ++ '/' :: rest)) = rest
    simp only [dropAuthority, Text.splitOnce_append hplain]

/-- The blanks and the scheme are taken off. -/
theorem dropScheme_trim : dropScheme (trim (a.uri n).toList) = a.authorityText ++ n.path := by
  obtain ⟨rest, hslash⟩ := a.exists_slash n
  have hlast : ∀ d, ('/' :: rest).getLast? = some d → isBlank d = false := by
    intro d hd
    rw [← hslash] at hd
    exact not_isBlank_last hd
  rw [toList_uri, hslash]
  unfold schemeText
  cases hscheme : a.scheme with
  | none => exact dropScheme_trim_slash a.isBlank_before a.isBlank_after hlast
  | some scheme =>
    obtain ⟨hcolon, hno⟩ := a.scheme_plain scheme hscheme
    have hdrop := dropScheme_trim_colon a.isBlank_before a.isBlank_after hlast hcolon hno a.isBlank_gap
    simpa using hdrop

end Address

/-- Every name whose digests are whole is read back from its text, with the types that have a name carrying
that name, and so it is from the text at any address. -/
theorem ofUri_toUri (n : Name) (h : ∀ c ∈ n.components, c.HasDigestLength) :
    ofUri n.toUri = .ok n.normalize ∧ ∀ a : Address, ofUri (a.uri n) = .ok n.normalize := by
  have haddress : ∀ a : Address, ofUri (a.uri n) = .ok n.normalize := by
    intro a
    refine ofUriText_of_path h ?_
    rw [a.dropScheme_trim, a.dropAuthority_path]
  have hplain : ({} : Address).uri n = n.toUri := by
    simp [Address.uri, Address.schemeText, Address.authorityText]
  exact ⟨hplain ▸ haddress {}, haddress⟩

/-- An empty value, a value of slash and period under the code of a plain component, a digest, and a percent
sign under a type without a name. -/
def manyTypes : Name where
  components := [⟨.generic, []⟩, ⟨.other 8, [0x2f, 0x2e]⟩,
    ⟨.parametersSha256Digest, List.replicate 32 0xab⟩, ⟨.other 255, [0x25]⟩]

/-- A host with a port behind a scheme, with blanks wherever they are skipped. -/
def withPort : Address where
  before := ['\t']
  scheme := some ['n', 'd', 'n']
  gap := [' ']
  authority := some ['h', ':', '1']
  after := ['\n']
  isBlank_before := by simp; decide
  isBlank_gap := by simp; decide
  isBlank_after := by simp; decide

theorem ofUri_toUri_manyTypes :
    ofUri ("/.../8=%2F./params-sha256=" ++
        "abababababababababababababababababababababababababababababababab/255=%25") = .ok manyTypes.normalize
      ∧ ofUri ("\tndn: //h:1/.../8=%2F./params-sha256=" ++
        "abababababababababababababababababababababababababababababababab/255=%25\n") = .ok manyTypes.normalize := by
  have hdigests : ∀ c ∈ manyTypes.components, c.HasDigestLength := by
    simp [manyTypes, Component.HasDigestLength, Component.digestLength]
  have hread := ofUri_toUri manyTypes hdigests
  exact ⟨hread.1, hread.2 withPort⟩

end Name

end NamedData
