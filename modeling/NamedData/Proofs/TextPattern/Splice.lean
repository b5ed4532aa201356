import NamedData.Proofs.TextPattern.PatternReader

/-!
# A text put into a group

A text is put between parentheses to make a group of it. What is read then depends on which parenthesis closes
the group (`Place.read_inside`). As long as none does, the text is read as it is by itself, with one more group
around those that are open (`Place.inside`). If the group is closed by the parenthesis put behind the text,
then what stands in it is what the text is by itself. If a parenthesis in the text closes it, the text by
itself cannot be read, but what stands before that parenthesis can. It cannot be that the parenthesis behind
the text is read as anything else, because the group would remain open (`Place.mem_of_read`).
-/

namespace NamedData.TextPattern

namespace Place

variable {place next : Place} {move : Move} {fuel fuel' : Nat} {text rest v : List Char} {parent : Level}
  {piece : Piece}

theorem leaves_readMove (place : Place) (text : List Char) : Leaves text.tail (place.readMove text) :=
  (place.level.leaves_readMove _ _).trans (place.level.flags.tail_skip_suffix text)

theorem parallel_readMove (place : Place) (text v : List Char) :
    Parallel Level.StuckMove v (place.readMove text) (place.readMove (text ++ ')' :: v)) :=
  .afterSkip (place.level.parallel_readMove place.number _ v) fun text =>
    (place.level.leaves_readMove place.number text).ofTail

theorem skip_ne_nil_of_readMove (h : place.readMove text = some (move, rest)) :
    place.level.flags.skip text ≠ [] := by
  intro hnil
  rw [readMove, hnil] at h
  cases h

theorem length_lt_of_readMove (h : place.readMove text = some (move, rest)) : rest.length < text.length :=
  Flags.length_lt_of_suffix_tail_skip (skip_ne_nil_of_readMove h)
    (place.level.leaves_readMove _ _ _ _ h)

/-- Only a closing parenthesis closes a group. -/
theorem skip_eq_of_closes (h : place.readMove text = some (.closes, rest)) :
    place.level.flags.skip text = ')' :: rest := by
  have hrepeat : ∀ min max left, place.level.repeatMove min max left ≠ some (.closes, rest) :=
    fun _ _ _ h => nomatch Level.goesOn_of_repeatMove h
  unfold readMove Level.readMove at h
  split at h
  · cases h
  · obtain ⟨⟨start, left⟩, -, heq⟩ := Option.map_eq_some_iff.1 h
    cases start with
    | group inner => cases heq
    | options flags => cases heq
  · next hskip =>
    cases h
    exact hskip
  · cases h
  · obtain ⟨p, -, heq⟩ := Option.map_eq_some_iff.1 h
    cases heq
  · exact absurd h (hrepeat _ _ _)
  · exact absurd h (hrepeat _ _ _)
  · exact absurd h (hrepeat _ _ _)
  · obtain ⟨p, -, heq⟩ := Option.bind_eq_some_iff.1 h
    exact absurd heq (hrepeat _ _ _)
  · obtain ⟨p, -, heq⟩ := Option.map_eq_some_iff.1 h
    cases heq

/-! ## Steps -/

theorem read_of_readMove (h : place.readMove text = some (move, rest)) :
    place.read (fuel + 1) text = place.next move >>= fun next => next.read fuel rest := by
  rw [read_succ, if_neg (skip_ne_nil_of_readMove h), h]
  rfl

theorem read_of_skip (h : place.level.flags.skip text = []) :
    place.read (fuel + 1) text = if place.outer.isEmpty then some place.level.whole else none := by
  rw [read_succ, if_pos h]

/-- What is read at a place: the end of the outermost group, or one part and what is read after it. -/
theorem read_eq_some (h : place.read fuel text = some piece) : ∃ fuel', fuel = fuel' + 1
    ∧ (place.level.flags.skip text = [] ∧ place.outer = [] ∧ piece = place.level.whole
      ∨ ∃ move rest next, place.readMove text = some (move, rest) ∧ place.next move = some next
        ∧ next.read fuel' rest = some piece) := by
  cases fuel with
  | zero => cases h
  | succ fuel =>
    refine ⟨fuel, rfl, ?_⟩
    rw [read_succ] at h
    split at h
    · next hskip =>
      split at h
      · next hempty =>
        cases h
        exact .inl ⟨hskip, List.isEmpty_iff.1 hempty, rfl⟩
      · cases h
    · obtain ⟨⟨move, rest⟩, hmove, h⟩ := Option.bind_eq_some_iff.1 h
      obtain ⟨next, hnext, h⟩ := Option.bind_eq_some_iff.1 h
      exact .inr ⟨move, rest, next, hmove, hnext, h⟩

/-- Every part takes a character, so one more than the length of the text is fuel enough. -/
theorem read_fuel (h : text.length < fuel) (h' : text.length < fuel') :
    place.read fuel text = place.read fuel' text := by
  induction fuel generalizing fuel' place text with
  | zero => omega
  | succ fuel ih =>
    obtain ⟨fuel', rfl⟩ := Nat.exists_eq_add_of_le' (Nat.one_le_of_lt h')
    rw [read_succ, read_succ]
    split
    · rfl
    · refine Option.bind_congr fun (move, rest) hmove => Option.bind_congr fun next _ => ?_
      have hlength := length_lt_of_readMove hmove
      exact ih (by omega) (by omega)

/-! ## Inside of a group -/

/-- The same place in a pattern that is a group of another one. -/
def inside (parent : Level) (place : Place) : Place :=
  { place with outer := place.outer ++ [parent] }

theorem next_inside (h : place.next move = some next) :
    (place.inside parent).next move = some (next.inside parent) := by
  cases move with
  | opens inner =>
    cases h
    rfl
  | goesOn level =>
    cases h
    rfl
  | closes =>
    obtain ⟨number, outer, level⟩ := place
    cases outer with
    | nil => cases h
    | cons parent outer =>
      cases h
      rfl

theorem next_eq_none (h : place.next move = none) : move = .closes ∧ place.outer = [] := by
  cases move with
  | opens inner => cases h
  | goesOn level => cases h
  | closes =>
    obtain ⟨number, outer, level⟩ := place
    cases outer with
    | nil => exact ⟨rfl, rfl⟩
    | cons parent outer => cases h

/-- Without a closing parenthesis no group comes to its end. -/
theorem mem_of_read (houter : place.outer ≠ []) (h : place.read fuel text = some piece) : ')' ∈ text := by
  induction fuel generalizing place text with
  | zero => cases h
  | succ fuel ih =>
    obtain ⟨_, ⟨⟩, ⟨-, hnone, -⟩ | ⟨move, rest, next, hmove, hnext, hread⟩⟩ := read_eq_some h
    · exact absurd hnone houter
    · have hsuffix := (place.leaves_readMove text _ _ hmove).trans (List.tail_suffix text)
      cases move with
      | opens inner =>
        cases hnext
        exact hsuffix.subset (ih (List.cons_ne_nil _ _) hread)
      | goesOn level =>
        cases hnext
        refine hsuffix.subset (ih ?_ hread)
        exact houter
      | closes =>
        have hmem : ')' ∈ place.level.flags.skip text := skip_eq_of_closes hmove ▸ List.mem_cons_self
        exact (place.level.flags.skip_suffix text).subset hmem

theorem readMove_brace (place : Place) (inner : List Char) : place.readMove ('\x7b' :: inner)
    = readBounds place.level.flags inner >>= fun ((min, max), rest) =>
      place.level.repeatMove min max rest := by
  rw [readMove, place.level.flags.skip_cons_brace]
  rfl

/-- The bounds of a repetition are not read where nothing counts. -/
theorem not_openBrace_of_read (h : place.read fuel text = some piece) :
    ¬OpenBrace place.level.flags text := by
  rintro ⟨inner, rfl, hskip⟩
  obtain ⟨_, -, ⟨hnil, -⟩ | ⟨move, rest, next, hmove, -⟩⟩ := read_eq_some h
  · rw [place.level.flags.skip_cons_brace] at hnil
    cases hnil
  · rw [readMove_brace, readBounds_of_skip hskip] at hmove
    cases hmove

/-- Nor are they read from a parenthesis that would have to close a group. -/
theorem not_openBrace_of_read_append (houter : place.outer ≠ []) (hv : ')' ∉ v)
    (h : place.read fuel (text ++ ')' :: v) = some piece) : ¬OpenBrace place.level.flags text := by
  rintro ⟨inner, rfl, hskip⟩
  obtain ⟨_, -, ⟨hnil, -⟩ | ⟨move, rest, next, hmove, hnext, hread⟩⟩ := read_eq_some h
  · rw [List.cons_append, place.level.flags.skip_cons_brace] at hnil
    cases hnil
  · rw [List.cons_append, readMove_brace] at hmove
    obtain ⟨⟨⟨min, max⟩, left⟩, hbounds, hmove⟩ := Option.bind_eq_some_iff.1 hmove
    have hsuffix := place.level.leaves_repeatMove min max left _ _ hmove
    obtain ⟨level, rfl⟩ := Level.goesOn_of_repeatMove hmove
    cases hnext
    rcases parallel_readBounds place.level.flags inner v _ _ hbounds with
      ⟨_, hnone, -⟩ | hpast | ⟨_, ⟨⟩, _⟩
    · rw [readBounds_of_skip hskip] at hnone
      cases hnone
    · refine hv ((hsuffix.trans hpast).subset (mem_of_read ?_ hread))
      exact houter

/-- A part of a longer text is a part of the text before a parenthesis behind it. -/
theorem readMove_before {before after : List Char}
    (h : place.readMove text = some (move, before ++ ')' :: after)) :
    ∃ short, text = short ++ ')' :: after
      ∧ (place.readMove short = some (move, before) ∨ Level.StuckMove move before) := by
  obtain ⟨taken, rfl⟩ := (place.leaves_readMove text _ _ h).trans (List.tail_suffix text)
  refine ⟨taken ++ before, by simp, ?_⟩
  rw [← List.append_assoc] at h
  rcases place.parallel_readMove (taken ++ before) after _ _ h with
    ⟨left, hleft, heq⟩ | hpast | ⟨left, hleft, heq⟩
  · obtain rfl := List.append_cancel_right heq
    exact .inl hleft
  · have hlength := hpast.length_le
    simp only [List.length_append, List.length_cons] at hlength
    omega
  · obtain rfl := List.append_cancel_right heq
    exact .inr hleft

/-- What stands before the parenthesis that closes the outermost group can be read by itself. -/
theorem read_before_of_closes (fuel : Nat) (houter : place.outer = [])
    (h : place.readMove text = some (.closes, rest)) : ∃ before,
      text = before ++ ')' :: rest ∧ place.read (fuel + 1) before = some place.level.whole := by
  have hskip := skip_eq_of_closes h
  obtain ⟨before, htext⟩ := place.level.flags.skip_suffix text
  rw [hskip] at htext
  subst htext
  have hbefore : place.level.flags.skip before = [] := by
    rcases place.level.flags.skip_parenthesis before rest with heq | ⟨hnil, -⟩
    · rw [hskip, List.self_eq_append_left] at heq
      exact heq
    · exact hnil
  exact ⟨before, rfl, by rw [read_of_skip hbefore, houter]; rfl⟩

/-- The outermost group ends where the last of the groups around a place is closed. -/
theorem next_inside_of_outer (h : (place.inside parent).next move = some next) (houter : next.outer = []) :
    move = .closes ∧ place.outer = [] ∧ next = ⟨place.number, [], parent.push place.level.close⟩ := by
  obtain ⟨number, outer, level⟩ := place
  cases move with
  | opens inner =>
    cases h
    cases houter
  | goesOn level =>
    cases h
    exact absurd houter (List.append_ne_nil_of_right_ne_nil _ (List.cons_ne_nil _ _))
  | closes =>
    cases outer with
    | nil =>
      cases h
      exact ⟨rfl, rfl, rfl⟩
    | cons group outer =>
      cases h
      exact absurd houter (List.append_ne_nil_of_right_ne_nil _ (List.cons_ne_nil _ _))

/-- The parenthesis behind a text closes a group only where nothing of the text is left. -/
theorem skip_eq_nil_of_closes (hv : ')' ∉ v) (h : place.readMove (text ++ ')' :: v) = some (.closes, rest))
    (hpast : rest <:+ v) : place.level.flags.skip text = [] ∧ rest = v := by
  have hskip := skip_eq_of_closes h
  rcases place.level.flags.skip_parenthesis text v with heq | ⟨-, hlate⟩
  · rw [hskip] at heq
    cases hleft : place.level.flags.skip text with
    | nil =>
      rw [hleft] at heq
      exact ⟨rfl, (List.cons.inj heq).2⟩
    | cons c left =>
      have hlength := congrArg List.length heq
      have hle := hpast.length_le
      simp only [hleft, List.length_append, List.length_cons] at hlength
      omega
  · rw [hskip] at hlate
    exact absurd (hlate.subset List.mem_cons_self) hv

/-! ## The two ways to close a group -/

/-- Inside of a group, a text and a closing parenthesis behind it are read with nothing that closes groups
after it. Then the text by itself can be read, and is what stands in the group that the parenthesis closes;
or the text holds a parenthesis that closes the group before, and only what stands before that one can be
read by itself. -/
theorem read_inside (hv : ')' ∉ v)
    (h : (place.inside parent).read fuel (text ++ ')' :: v) = some piece) :
    (∃ (level : Level) (number fuel' : Nat), place.read fuel text = some level.whole
        ∧ (⟨number, [], parent.push level.close⟩ : Place).read fuel' v = some piece)
      ∨ place.read fuel text = none
        ∧ ∃ before after, text = before ++ ')' :: after ∧ (place.read fuel before).isSome := by
  induction fuel generalizing place text with
  | zero => cases h
  | succ fuel ih =>
    have hopen : (place.inside parent).outer ≠ [] :=
      List.append_ne_nil_of_right_ne_nil _ (List.cons_ne_nil _ _)
    obtain ⟨_, ⟨⟩, ⟨-, hnone, -⟩ | ⟨move, rest, inner, hmove, hinner, hread⟩⟩ := read_eq_some h
    · exact absurd hnone hopen
    rcases place.parallel_readMove text v move rest hmove with
      ⟨left, hleft, rfl⟩ | hpast | ⟨left, ⟨level, rfl, hbrace⟩, rfl⟩
    · -- the text alone goes on in the same way
      cases hnext : place.next move with
      | none =>
        obtain ⟨rfl, houter⟩ := next_eq_none hnext
        obtain ⟨before, htext, hbefore⟩ := read_before_of_closes fuel houter hleft
        refine .inr ⟨?_, before, left, htext, by rw [hbefore]; rfl⟩
        rw [read_of_readMove hleft, hnext]
        rfl
      | some next =>
        rw [next_inside hnext] at hinner
        cases hinner
        rcases ih hread with ⟨level, number, fuel', halone, hv⟩ | ⟨hnone, before, after, rfl, hbefore⟩
        · refine .inl ⟨level, number, fuel', ?_, hv⟩
          rw [read_of_readMove hleft, hnext]
          exact halone
        · obtain ⟨short, rfl, hshort⟩ := readMove_before hleft
          refine .inr ⟨?_, short, after, rfl, ?_⟩
          · rw [read_of_readMove hleft, hnext]
            exact hnone
          · rcases hshort with hshort | ⟨level, rfl, hbrace⟩
            · rw [read_of_readMove hshort, hnext]
              exact hbefore
            · cases hnext
              obtain ⟨piece, hpiece⟩ := Option.isSome_iff_exists.1 hbefore
              exact absurd hbrace (not_openBrace_of_read hpiece)
    · -- the parenthesis was read, so that it is the one that closes the group
      by_cases hend : inner.outer = []
      · obtain ⟨rfl, houter, rfl⟩ := next_inside_of_outer hinner hend
        obtain ⟨hnil, rfl⟩ := skip_eq_nil_of_closes hv hmove hpast
        have halone : place.level.flags.skip text = [] := hnil
        refine .inl ⟨place.level, place.number, fuel, ?_, hread⟩
        rw [read_of_skip halone, houter]
        rfl
      · exact absurd (hpast.subset (mem_of_read hend hread)) hv
    · cases hinner
      refine absurd hbrace (not_openBrace_of_read_append ?_ hv hread)
      exact hopen

end Place

end NamedData.TextPattern
