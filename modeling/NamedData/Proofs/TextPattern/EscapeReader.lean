import NamedData.Proofs.TextPattern.Parallel

/-!
# Escapes before a closing parenthesis

For every reader of escapes there are two lemmas: what it leaves (`leaves_…`), and that it finds the same with
a closing parenthesis behind its text as without one (`parallel_…`). Braces after `\b` are the exception. With
nothing in them that counts they are refused where the text ends, but before a parenthesis they are left
(`StuckEdge`), since they might hold the bounds of a repetition.
-/

namespace NamedData.TextPattern

variable {flags : Flags} {text : List Char}

/-! ## Characters given by numbers -/

theorem leaves_readHexDigits (flags : Flags) (digits value : Nat) (text : List Char) :
    Leaves text (readHexDigits flags digits value text) := by
  induction digits generalizing value text with
  | zero => exact .mapValue List.suffix_rfl
  | succ digits ih =>
    cases text with
    | nil => exact .ofNone
    | cons c rest =>
      rw [readHexDigits]
      split
      · exact (ih _ _).trans (flags.skip_suffix_cons c rest)
      · exact .ofNone

theorem parallel_readHexDigits (flags : Flags) (digits value : Nat) (text v : List Char) :
    Parallel Never v (readHexDigits flags digits value text)
      (readHexDigits flags digits value (text ++ ')' :: v)) := by
  induction digits generalizing value text with
  | zero => exact .mapValue
  | succ digits ih =>
    cases text with
    | nil => exact .ofNone
    | cons c rest =>
      rw [List.cons_append, readHexDigits, readHexDigits]
      split
      · exact .afterSkip (R := readHexDigits flags digits _) (ih _ _) (leaves_readHexDigits flags digits _)
      · exact .ofNone

theorem leaves_readBraced (flags : Flags) (inComment : Bool) (text : List Char) :
    Leaves text.tail (readBraced flags inComment text) := by
  fun_induction readBraced flags inComment text with
  | case1 => exact .ofNone
  | case2 c rest ih => exact ih.ofTail
  | case3 c rest _ ih => exact ih.ofTail
  | case4 c rest _ _ ih => exact ih.ofTail
  | case5 => exact .ofSome List.suffix_rfl
  | case6 c rest _ _ _ ih => exact (ih.ofTail).map fun _ _ => rfl

theorem parallel_readBraced (flags : Flags) (inComment : Bool) (text v : List Char) :
    Parallel Never v (readBraced flags inComment text) (readBraced flags inComment (text ++ ')' :: v)) := by
  induction text generalizing inComment with
  | nil => exact .past (leaves_readBraced flags inComment (')' :: v))
  | cons c rest ih =>
    rw [List.cons_append]
    cases inComment with
    | true =>
      rw [readBraced, readBraced]
      exact ih _
    | false =>
      rw [readBraced, readBraced]
      split
      · exact ih _
      · split
        · exact ih _
        · split
          · exact .same
          · exact (ih _).map fun _ _ => rfl

theorem readHex_of_head_ne {digits : Nat} (h : (flags.skip text).head? ≠ some '\x7b') :
    readHex flags digits text = (readHexDigits flags digits 0 (flags.skip text)).map
      fun (c, rest) => (.literal c (digits = 2), rest) := by
  unfold readHex
  split
  · next rest heq => simp [heq] at h
  · exact Option.map_eq_bind.symm

theorem leaves_readHex (flags : Flags) (digits : Nat) (text : List Char) :
    Leaves text (readHex flags digits text) := by
  by_cases h : (flags.skip text).head? = some '\x7b'
  · obtain ⟨rest, hrest⟩ := List.head?_eq_some_iff.1 h
    simp only [readHex, hrest]
    have hsuffix : '\x7b' :: rest <:+ text := hrest ▸ flags.skip_suffix text
    have hleaves := (leaves_readBraced flags false rest).ofTail.trans ((List.suffix_cons _ rest).trans hsuffix)
    exact hleaves.bind fun _ _ => .bindValue fun _ => .bindValue fun _ => .ofSome List.suffix_rfl
  · rw [readHex_of_head_ne h]
    exact ((leaves_readHexDigits flags digits 0 _).trans (flags.skip_suffix text)).map fun _ _ => rfl

theorem parallel_readHex (flags : Flags) (digits : Nat) (text v : List Char) :
    Parallel Never v (readHex flags digits text) (readHex flags digits (text ++ ')' :: v)) := by
  refine .ofSkip flags (fun text => ?_) (leaves_readHex flags digits) ?_ fun c rest hc => ?_
  · simp only [readHex, flags.skip_skip]
  · rw [readHex_of_head_ne (by simp), readHex_of_head_ne (by simp), flags.skip_nil,
      flags.skip_cons_parenthesis]
    exact (parallel_readHexDigits flags digits 0 [] v).map fun _ _ => rfl
  · by_cases hbrace : c = '\x7b'
    · subst hbrace
      simp only [readHex, hc]
      refine .bind (parallel_readBraced flags false rest v) (fun _ _ => ?_) (fun _ _ => ?_)
        fun _ _ => False.elim
      · exact .bindValue fun _ => .bindValue fun _ => .same
      · exact .bindValue fun _ => .bindValue fun _ => .ofSome List.suffix_rfl
    · rw [readHex_of_head_ne (by simp [hc, hbrace]), readHex_of_head_ne (by simp [hc, hbrace]), hc, hc]
      exact (parallel_readHexDigits flags digits 0 (c :: rest) v).map fun _ _ => rfl

/-! ## Classes and positions -/

/-- Reads the name of a property where everything counts: a letter, or what stands in braces. -/
def readPropertyName (flags : Flags) : List Char → Option (List Char × List Char)
  | [] => none
  | '\x7b' :: rest => readBraced flags false rest
  | c :: rest => if c = '\\' then none else some ([c], rest)

/-- The class for the name of a property, with the text behind the name. -/
def propertyOfName (flags : Flags) (negated : Bool) : List Char × List Char → Option (Primitive × List Char)
  | (name, rest) => do
    let (members, unequal) ← propertyClass name
    if flags.unicode then
      return (.set (← flags.negateIf (negated != unequal) (flags.fold members)), rest)
    else none

theorem readProperty_eq (flags : Flags) (negated : Bool) (text : List Char) :
    readProperty flags negated text
      = readPropertyName flags (flags.skip text) >>= propertyOfName flags negated := by
  unfold readProperty readPropertyName
  cases flags.skip text with
  | nil => rfl
  | cons c rest =>
    by_cases hbrace : c = '\x7b'
    · subst hbrace
      rfl
    · simp only []
      split
      · rfl
      · rfl

theorem leaves_readPropertyName (flags : Flags) (text : List Char) :
    Leaves text.tail (readPropertyName flags text) := by
  unfold readPropertyName
  split
  · exact .ofNone
  · next rest => exact (leaves_readBraced flags false rest).ofTail
  · split
    · exact .ofNone
    · exact .ofSome List.suffix_rfl

theorem parallel_readPropertyName (flags : Flags) (text v : List Char) :
    Parallel Never v (readPropertyName flags text) (readPropertyName flags (text ++ ')' :: v)) := by
  cases text with
  | nil => exact .past (leaves_readPropertyName flags (')' :: v))
  | cons c rest =>
    by_cases hbrace : c = '\x7b'
    · subst hbrace
      exact parallel_readBraced flags false rest v
    · simp only [List.cons_append, readPropertyName]
      split
      · exact .ofNone
      · exact .same

theorem leaves_propertyOfName (flags : Flags) (negated : Bool) (name rest : List Char) :
    Leaves rest (propertyOfName flags negated (name, rest)) := by
  refine .bindValue fun (members, unequal) => ?_
  dsimp only
  split
  · exact .bindValue fun _ => .ofSome List.suffix_rfl
  · exact .ofNone

theorem parallel_propertyOfName (flags : Flags) (negated : Bool) (name left v : List Char) :
    Parallel Never v (propertyOfName flags negated (name, left))
      (propertyOfName flags negated (name, left ++ ')' :: v)) := by
  refine .bindValue fun (members, unequal) => ?_
  dsimp only
  split
  · exact .bindValue fun _ => .same
  · exact .ofNone

theorem leaves_readProperty (flags : Flags) (negated : Bool) (text : List Char) :
    Leaves text (readProperty flags negated text) := by
  rw [readProperty_eq]
  have hname := (leaves_readPropertyName flags (flags.skip text)).ofTail
  exact (hname.trans (flags.skip_suffix text)).bind (leaves_propertyOfName flags negated)

theorem parallel_readProperty (flags : Flags) (negated : Bool) (text v : List Char) :
    Parallel Never v (readProperty flags negated text) (readProperty flags negated (text ++ ')' :: v)) := by
  rw [readProperty_eq, readProperty_eq]
  have hname : Parallel Never v (readPropertyName flags (flags.skip text))
      (readPropertyName flags (flags.skip (text ++ ')' :: v))) :=
    .afterSkip (parallel_readPropertyName flags (flags.skip text) v) fun text =>
      (leaves_readPropertyName flags text).ofTail
  exact hname.bind (fun name left => parallel_propertyOfName flags negated name left v)
    (leaves_propertyOfName flags negated) fun _ _ => False.elim

/-- Reads the word in braces that tells which edge of a word is meant. -/
def readEdgeName (flags : Flags) (inner : List Char) : Option (Primitive × List Char) := do
  let (name, rest) ← readBraced flags false inner
  let edge ← edgeNamed? (String.ofList name)
  return (.boundary (.word edge flags.unicode), rest)

theorem leaves_readEdgeName (flags : Flags) (inner : List Char) :
    Leaves inner (readEdgeName flags inner) :=
  ((leaves_readBraced flags false inner).ofTail).bind fun _ _ =>
    .bindValue fun _ => .ofSome List.suffix_rfl

theorem parallel_readEdgeName (flags : Flags) (inner v : List Char) :
    Parallel Never v (readEdgeName flags inner) (readEdgeName flags (inner ++ ')' :: v)) :=
  .bind (parallel_readBraced flags false inner v) (fun _ _ => .bindValue fun _ => .same)
    (fun _ _ => .bindValue fun _ => .ofSome List.suffix_rfl) fun _ _ => False.elim

theorem readBraced_of_skipFrom {inComment : Bool} (hblanks : flags.blanks = true)
    (h : Flags.skipFrom inComment text = []) : readBraced flags inComment text = none := by
  fun_induction Flags.skipFrom inComment text with
  | case1 => rw [readBraced]
  | case2 c rest ih => rw [readBraced, ih h]
  | case3 c rest hblank ih => rw [readBraced, if_pos (by simp [hblanks, hblank]), ih h]
  | case4 rest hblank ih =>
    rw [readBraced, if_neg (by simp [hblank]), if_pos (by simp [hblanks]), ih h]
  | case5 => cases h

theorem readBraced_of_skip (h : flags.skip text = []) : readBraced flags false text = none := by
  unfold Flags.skip at h
  split at h
  · next hblanks => exact readBraced_of_skipFrom hblanks h
  · rw [h, readBraced]

theorem readEdge_of_head_ne (h : text.head? ≠ some '\x7b') :
    readEdge flags text = some (.boundary (.word .change flags.unicode), text) := by
  unfold readEdge
  split
  · next inner => simp at h
  · rfl

theorem readEdge_brace (flags : Flags) (inner : List Char) :
    readEdge flags ('\x7b' :: inner) = (flags.skip inner).head?.bind fun c =>
      if c.isAlpha || c = '-' then readEdgeName flags inner
      else some (.boundary (.word .change flags.unicode), '\x7b' :: inner) := by
  unfold readEdge
  cases hskip : flags.skip inner with
  | nil => simp [hskip]
  | cons c rest =>
    simp only [hskip, List.head?_cons, Option.bind_some]
    rfl

/-- A brace with nothing that counts behind it. -/
def OpenBrace (flags : Flags) (left : List Char) : Prop :=
  ∃ inner, left = '\x7b' :: inner ∧ flags.skip inner = []

/-- A position was read before a brace with nothing that counts behind it. -/
def StuckEdge (flags : Flags) (primitive : Primitive) (left : List Char) : Prop :=
  (∃ kind, primitive = .boundary kind) ∧ OpenBrace flags left

theorem leaves_readEdge (flags : Flags) (text : List Char) : Leaves text (readEdge flags text) := by
  by_cases h : text.head? = some '\x7b'
  · obtain ⟨inner, rfl⟩ := List.head?_eq_some_iff.1 h
    rw [readEdge_brace]
    refine .bindValue fun c => ?_
    split
    · exact (leaves_readEdgeName flags inner).trans (List.suffix_cons _ inner)
    · exact .ofSome List.suffix_rfl
  · rw [readEdge_of_head_ne h]
    exact .ofSome List.suffix_rfl

theorem parallel_readEdge (flags : Flags) (text v : List Char) :
    Parallel (StuckEdge flags) v (readEdge flags text) (readEdge flags (text ++ ')' :: v)) := by
  by_cases h : text.head? = some '\x7b'
  · obtain ⟨inner, rfl⟩ := List.head?_eq_some_iff.1 h
    rw [List.cons_append, readEdge_brace, readEdge_brace]
    cases hskip : flags.skip inner with
    | nil =>
      -- the text ends where the whole has a word, or a parenthesis that is left for repetitions
      cases (flags.skip (inner ++ ')' :: v)).head? with
      | none => exact .ofNone
      | some c =>
        rw [Option.bind_some]
        split
        · have hname := parallel_readEdgeName flags inner v
          rw [readEdgeName, readBraced_of_skip hskip] at hname
          exact hname.weaken
        · have hstuck : StuckEdge flags (.boundary (.word .change flags.unicode)) ('\x7b' :: inner) :=
            ⟨⟨_, rfl⟩, inner, rfl, hskip⟩
          exact .stop hstuck
    | cons c rest =>
      have hmore : flags.skip (inner ++ ')' :: v) = c :: rest ++ ')' :: v := by
        rcases flags.skip_parenthesis inner v with heq | ⟨hnil, -⟩
        · rw [heq, hskip]
        · rw [hskip] at hnil
          cases hnil
      rw [hmore]
      simp only [List.cons_append, List.head?_cons, Option.bind_some]
      split
      · exact (parallel_readEdgeName flags inner v).weaken
      · exact .same
  · rw [readEdge_of_head_ne h, readEdge_of_head_ne (head?_parenthesis_ne (by decide) h)]
    exact .same

/-! ## Escapes -/

theorem leaves_readEscape (flags : Flags) (text : List Char) :
    Leaves text.tail (readEscape flags text) := by
  cases text with
  | nil => exact .ofNone
  | cons c rest =>
    rw [readEscape.eq_def]
    dsimp only
    split
    · exact leaves_readHex flags 2 rest
    · exact leaves_readHex flags 4 rest
    · exact leaves_readHex flags 8 rest
    · exact leaves_readProperty flags false rest
    · exact leaves_readProperty flags true rest
    all_goals
      first
      | exact leaves_readEdge flags rest
      | exact .mapValue List.suffix_rfl
      | exact .ofSome List.suffix_rfl
      | skip
    split
    · exact .ofSome List.suffix_rfl
    · exact .ofNone

theorem parallel_readEscape (flags : Flags) (text v : List Char) :
    Parallel (StuckEdge flags) v (readEscape flags text) (readEscape flags (text ++ ')' :: v)) := by
  cases text with
  | nil => exact .past (leaves_readEscape flags (')' :: v))
  | cons c rest =>
    rw [List.cons_append, readEscape.eq_def, readEscape.eq_def]
    dsimp only
    split
    · exact (parallel_readHex flags 2 rest v).weaken
    · exact (parallel_readHex flags 4 rest v).weaken
    · exact (parallel_readHex flags 8 rest v).weaken
    · exact (parallel_readProperty flags false rest v).weaken
    · exact (parallel_readProperty flags true rest v).weaken
    all_goals
      first
      | exact parallel_readEdge flags rest v
      | exact .mapValue
      | exact .same
      | skip
    split
    · exact .same
    · exact .ofNone

end NamedData.TextPattern
