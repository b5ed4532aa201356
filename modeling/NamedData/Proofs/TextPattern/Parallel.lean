import NamedData.TextPattern.Escape

/-!
# Reading up to a closing parenthesis

A text pattern is read from left to right, and its readers hardly tell whether their text ends at some place
or goes on there with a closing parenthesis: what a reader finds in the longer text is what it finds in the
shorter one, unless it reads the parenthesis as well (`Parallel`). Some readers look one character ahead, and
at a parenthesis they leave what they refuse at the end of the text; since nothing that follows accepts it
either, this only has to be kept track of (`stuck`).

All readers leave an end of their text (`Leaves`), so that the relation carries over to readers that are put
together from others: once the parenthesis is read, whatever is read later lies behind it.
-/

namespace NamedData.TextPattern

variable {α β : Type} {text more v : List Char}

/-! ## What is left -/

/-- What a reader leaves is an end of the text. -/
def Leaves (text : List Char) (result : Option (α × List Char)) : Prop :=
  ∀ x rest, result = some (x, rest) → rest <:+ text

namespace Leaves

theorem ofNone : Leaves text (none : Option (α × List Char)) :=
  nofun

theorem ofSome {x : α} (h : more <:+ text) : Leaves text (some (x, more)) := by
  rintro _ _ ⟨⟩
  exact h

theorem trans {result : Option (α × List Char)} (h : Leaves more result) (hmore : more <:+ text) :
    Leaves text result :=
  fun x rest hresult => (h x rest hresult).trans hmore

/-- A reader that takes a character at least. -/
theorem ofTail {result : Option (α × List Char)} (h : Leaves text.tail result) : Leaves text result :=
  h.trans (List.tail_suffix text)

theorem bind {result : Option (α × List Char)} {f : α × List Char → Option (β × List Char)}
    (h : Leaves text result) (hf : ∀ x rest, Leaves rest (f (x, rest))) : Leaves text (result >>= f) := by
  intro y rest hbind
  obtain ⟨⟨x, left⟩, hresult, hy⟩ := Option.bind_eq_some_iff.1 hbind
  exact (hf x left y rest hy).trans (h x left hresult)

/-- What is read is turned into something else. -/
theorem bindValue {o : Option α} {f : α → Option (β × List Char)} (hf : ∀ x, Leaves text (f x)) :
    Leaves text (o >>= f) := by
  intro y rest hbind
  obtain ⟨x, -, hy⟩ := Option.bind_eq_some_iff.1 hbind
  exact hf x y rest hy

theorem map {result : Option (α × List Char)} {f : α × List Char → β × List Char} {g : α → β}
    (h : Leaves text result) (hf : ∀ x rest, f (x, rest) = (g x, rest)) : Leaves text (result.map f) := by
  intro y rest hmap
  obtain ⟨⟨x, left⟩, hresult, hy⟩ := Option.map_eq_some_iff.1 hmap
  rw [hf] at hy
  cases hy
  exact h x rest hresult

theorem mapValue {o : Option α} {g : α → β} (h : more <:+ text) :
    Leaves text (o.map fun x => (g x, more)) := by
  rintro _ rest hmap
  obtain ⟨x, -, ⟨⟩⟩ := Option.map_eq_some_iff.1 hmap
  exact h

end Leaves

/-! ## With and without a parenthesis -/

/-- What is read from a text (`alone`) against what is read from the text with a closing parenthesis and `v`
behind it (`whole`): if the whole can be read, then the text alone can be read in the same way, or the
parenthesis is read as well, or what is read leaves a text that is stuck. -/
def Parallel (stuck : α → List Char → Prop) (v : List Char) (alone whole : Option (α × List Char)) :
    Prop :=
  ∀ x rest, whole = some (x, rest) →
    (∃ left, alone = some (x, left) ∧ rest = left ++ ')' :: v) ∨ rest <:+ v
      ∨ ∃ left, stuck x left ∧ rest = left ++ ')' :: v

/-- No text is stuck. -/
def Never (_ : α) (_ : List Char) : Prop :=
  False

namespace Parallel

variable {stuck : α → List Char → Prop} {stuck' : β → List Char → Prop}
  {alone whole : Option (α × List Char)} {x : α}

theorem weaken (h : Parallel Never v alone whole) : Parallel stuck v alone whole := by
  intro x rest hwhole
  rcases h x rest hwhole with hsame | hpast | ⟨_, ⟨⟩, _⟩
  · exact .inl hsame
  · exact .inr (.inl hpast)

theorem ofNone : Parallel stuck v alone none :=
  nofun

/-- The same is read and the same is left. -/
theorem same : Parallel stuck v (some (x, text)) (some (x, text ++ ')' :: v)) := by
  rintro _ _ ⟨⟩
  exact .inl ⟨text, rfl, rfl⟩

/-- The parenthesis is read. -/
theorem past (h : Leaves v whole) : Parallel stuck v alone whole :=
  fun x rest hwhole => .inr (.inl (h x rest hwhole))

/-- A text is left that is stuck. -/
theorem stop (h : stuck x text) : Parallel stuck v alone (some (x, text ++ ')' :: v)) := by
  rintro _ _ ⟨⟩
  exact .inr (.inr ⟨text, h, rfl⟩)

theorem bind {f : α × List Char → Option (β × List Char)} (h : Parallel stuck v alone whole)
    (hf : ∀ x left, Parallel stuck' v (f (x, left)) (f (x, left ++ ')' :: v)))
    (hleaves : ∀ x rest, Leaves rest (f (x, rest)))
    (hstuck : ∀ x left, stuck x left → Parallel stuck' v none (f (x, left ++ ')' :: v))) :
    Parallel stuck' v (alone >>= f) (whole >>= f) := by
  intro y rest hbind
  obtain ⟨⟨x, left⟩, hwhole, hy⟩ := Option.bind_eq_some_iff.1 hbind
  rcases h x left hwhole with ⟨short, halone, rfl⟩ | hpast | ⟨short, hshort, rfl⟩
  · rw [halone]
    exact hf x short y rest hy
  · exact .inr (.inl ((hleaves x left y rest hy).trans hpast))
  · rcases hstuck x short hshort y rest hy with ⟨-, ⟨⟩, -⟩ | hleft
    exact .inr hleft

theorem bindValue {o : Option α} {f g : α → Option (β × List Char)}
    (h : ∀ x, Parallel stuck' v (f x) (g x)) : Parallel stuck' v (o >>= f) (o >>= g) := by
  intro y rest hbind
  obtain ⟨x, rfl, hy⟩ := Option.bind_eq_some_iff.1 hbind
  exact h x y rest hy

theorem mapStuck {f : α × List Char → β × List Char} {g : α → β} (h : Parallel stuck v alone whole)
    (hf : ∀ x rest, f (x, rest) = (g x, rest)) (hstuck : ∀ x left, stuck x left → stuck' (g x) left) :
    Parallel stuck' v (alone.map f) (whole.map f) := by
  rw [Option.map_eq_bind, Option.map_eq_bind]
  refine h.bind (fun x left => ?_) (fun x rest => ?_) fun x left hleft => ?_
  · simp only [Function.comp_apply, hf]
    exact .same
  · simp only [Function.comp_apply, hf]
    exact .ofSome List.suffix_rfl
  · simp only [Function.comp_apply, hf]
    exact .stop (hstuck x left hleft)

theorem map {f : α × List Char → β × List Char} {g : α → β} (h : Parallel Never v alone whole)
    (hf : ∀ x rest, f (x, rest) = (g x, rest)) : Parallel stuck' v (alone.map f) (whole.map f) :=
  h.mapStuck hf fun _ _ => False.elim

theorem mapValue {o : Option α} {g : α → β} :
    Parallel stuck' v (o.map fun x => (g x, text)) (o.map fun x => (g x, text ++ ')' :: v)) := by
  cases o with
  | none => exact .ofNone
  | some x => exact .same

end Parallel

theorem head?_parenthesis_ne {c : Char} (hc : c ≠ ')') (h : text.head? ≠ some c) :
    (text ++ ')' :: v).head? ≠ some c := by
  cases text with
  | nil => simpa using hc.symm
  | cons d rest => exact h

/-! ## What does not count -/

namespace Flags

variable (flags : Flags)

theorem skipFrom_suffix (inComment : Bool) (text : List Char) : skipFrom inComment text <:+ text := by
  fun_induction skipFrom inComment text with
  | case1 => exact List.suffix_rfl
  | case2 c rest ih => exact ih.trans (List.suffix_cons c rest)
  | case3 c rest _ ih => exact ih.trans (List.suffix_cons c rest)
  | case4 rest _ ih => exact ih.trans (List.suffix_cons _ rest)
  | case5 => exact List.suffix_rfl

theorem skip_suffix (text : List Char) : flags.skip text <:+ text := by
  unfold skip
  split
  · exact skipFrom_suffix false text
  · exact List.suffix_rfl

theorem skip_suffix_cons (c : Char) (rest : List Char) : flags.skip rest <:+ c :: rest :=
  (flags.skip_suffix rest).trans (List.suffix_cons c rest)

theorem skipFrom_skipFrom (inComment : Bool) (text : List Char) :
    skipFrom false (skipFrom inComment text) = skipFrom inComment text := by
  fun_induction skipFrom inComment text with
  | case1 => rfl
  | case2 c rest ih => exact ih
  | case3 c rest _ ih => exact ih
  | case4 rest _ ih => exact ih
  | case5 c rest hblank hhash => rw [skipFrom, if_neg hblank, if_neg hhash]

@[simp]
theorem skip_skip (text : List Char) : flags.skip (flags.skip text) = flags.skip text := by
  unfold skip
  split
  · exact skipFrom_skipFrom false text
  · rfl

/-- Whether a character counts does not depend on what follows it. -/
theorem skipFrom_cons_of_skipFrom {inComment : Bool} {text rest : List Char} {c : Char}
    (h : skipFrom inComment text = c :: rest) (more : List Char) :
    skipFrom false (c :: more) = c :: more := by
  fun_induction skipFrom inComment text with
  | case1 => cases h
  | case2 _ _ ih => exact ih h
  | case3 _ _ _ ih => exact ih h
  | case4 _ _ ih => exact ih h
  | case5 d rest hblank hhash =>
    cases h
    rw [skipFrom, if_neg hblank, if_neg hhash]

theorem skip_cons_of_skip {flags : Flags} {text rest : List Char} {c : Char}
    (h : flags.skip text = c :: rest) (more : List Char) : flags.skip (c :: more) = c :: more := by
  unfold skip at h ⊢
  split
  · next hblanks => exact skipFrom_cons_of_skipFrom (by rwa [if_pos hblanks] at h) more
  · rfl

@[simp]
theorem skip_nil : flags.skip [] = [] :=
  List.suffix_nil.1 (flags.skip_suffix [])

@[simp]
theorem skip_cons_parenthesis (v : List Char) : flags.skip (')' :: v) = ')' :: v := by
  unfold skip
  split
  · rfl
  · rfl

@[simp]
theorem skip_cons_brace (v : List Char) : flags.skip ('\x7b' :: v) = '\x7b' :: v := by
  unfold skip
  split
  · rfl
  · rfl

theorem tail_skip_suffix (text : List Char) : (flags.skip text).tail <:+ text.tail := by
  obtain ⟨before, h⟩ := flags.skip_suffix text
  cases before with
  | nil => exact ⟨[], congrArg List.tail h⟩
  | cons c before => exact (List.tail_suffix _).trans ⟨before, congrArg List.tail h⟩

/-- A reader that takes a character where everything counts makes the text shorter. -/
theorem length_lt_of_suffix_tail_skip {flags : Flags} {text rest : List Char} (hskip : flags.skip text ≠ [])
    (h : rest <:+ (flags.skip text).tail) : rest.length < text.length := by
  have hrest := h.length_le
  have hlength := (flags.skip_suffix text).length_le
  have hpos := List.length_pos_iff.2 hskip
  rw [List.length_tail] at hrest
  omega

/-- A closing parenthesis counts, unless it stands in a comment. -/
theorem skipFrom_parenthesis (inComment : Bool) (text v : List Char) :
    skipFrom inComment (text ++ ')' :: v) = skipFrom inComment text ++ ')' :: v
      ∨ skipFrom inComment text = [] ∧ skipFrom inComment (text ++ ')' :: v) <:+ v := by
  fun_induction skipFrom inComment text with
  | case1 inComment =>
    cases inComment with
    | true => exact .inr ⟨rfl, skipFrom_suffix _ v⟩
    | false => exact .inl rfl
  | case2 c rest ih => exact ih
  | case3 c rest hblank ih =>
    rw [List.cons_append, skipFrom, if_pos hblank]
    exact ih
  | case4 rest hblank ih =>
    rw [List.cons_append, skipFrom, if_neg hblank, if_pos rfl]
    exact ih
  | case5 c rest hblank hhash =>
    rw [List.cons_append, skipFrom, if_neg hblank, if_neg hhash]
    exact .inl rfl

theorem skip_parenthesis (text v : List Char) :
    flags.skip (text ++ ')' :: v) = flags.skip text ++ ')' :: v
      ∨ flags.skip text = [] ∧ flags.skip (text ++ ')' :: v) <:+ v := by
  unfold skip
  split
  · exact skipFrom_parenthesis false text v
  · exact .inl rfl

end Flags

section Skip

variable {flags : Flags} {R : List Char → Option (α × List Char)} {stuck : α → List Char → Prop}

/-- A reader goes on after what does not count. -/
theorem Parallel.afterSkip
    (h : Parallel stuck v (R (flags.skip text)) (R (flags.skip text ++ ')' :: v)))
    (hleaves : ∀ text, Leaves text (R text)) :
    Parallel stuck v (R (flags.skip text)) (R (flags.skip (text ++ ')' :: v))) := by
  rcases flags.skip_parenthesis text v with heq | ⟨-, hpast⟩
  · rw [heq]
    exact h
  · exact .past ((hleaves _).trans hpast)

/-- A reader that leaves out what does not count may be looked at where the first character counts. -/
theorem Parallel.ofSkip (flags : Flags) (hskip : ∀ text, R (flags.skip text) = R text)
    (hleaves : ∀ text, Leaves text (R text)) (hnil : Parallel stuck v (R []) (R (')' :: v)))
    (hcons : ∀ c rest, (∀ more, flags.skip (c :: more) = c :: more) →
      Parallel stuck v (R (c :: rest)) (R (c :: (rest ++ ')' :: v)))) :
    Parallel stuck v (R text) (R (text ++ ')' :: v)) := by
  rw [← hskip text, ← hskip (text ++ ')' :: v)]
  refine .afterSkip ?_ hleaves
  cases h : flags.skip text with
  | nil => exact hnil
  | cons c rest => exact hcons c rest (Flags.skip_cons_of_skip h)

end Skip

end NamedData.TextPattern
