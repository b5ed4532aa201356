import NamedData.Proofs.TextPattern.ClassReader
import NamedData.TextPattern.Syntax

/-!
# Groups before a closing parenthesis

A pattern is read part by part: `readRest` repeats `Level.readMove`, and a `Place` holds the groups that are
open (`Place.read_succ`). A part is read in the same way with a closing parenthesis behind the text, unless it
takes the parenthesis or leaves a brace with nothing behind it (`Level.parallel_readMove`).
-/

namespace NamedData.TextPattern

variable {flags : Flags} {text v : List Char}

/-! ## Options -/

/-- Reads the letters of options, with what they say put together. -/
def readOptions (flags : Flags) (seen : List Flag) (clearing dangling : Bool) (text : List Char) :
    Option ((Flags × Bool) × List Char) :=
  (readFlags flags seen clearing dangling text).map fun (flags, opens, rest) => ((flags, opens), rest)

theorem leaves_readOptions (flags : Flags) (seen : List Flag) (clearing dangling : Bool)
    (text : List Char) : Leaves text.tail (readOptions flags seen clearing dangling text) := by
  unfold readOptions
  induction text generalizing flags seen clearing dangling with
  | nil => exact .ofNone
  | cons c rest ih =>
    have hmore : ∀ flags seen clearing dangling, Leaves rest
        ((readFlags flags seen clearing dangling rest).map fun (flags, opens, rest) =>
          ((flags, opens), rest)) :=
      fun _ _ _ _ => (ih _ _ _ _).ofTail
    rw [readFlags]
    split
    · split
      · exact .ofNone
      · exact .ofSome List.suffix_rfl
    · split
      · split
        · exact .ofNone
        · exact hmore _ _ _ _
      · split
        · exact .ofNone
        · split
          · exact .ofNone
          · exact hmore _ _ _ _

theorem parallel_readOptions (flags : Flags) (seen : List Flag) (clearing dangling : Bool)
    (text v : List Char) : Parallel Never v (readOptions flags seen clearing dangling text)
      (readOptions flags seen clearing dangling (text ++ ')' :: v)) := by
  induction text generalizing flags seen clearing dangling with
  | nil => exact .past (leaves_readOptions flags seen clearing dangling (')' :: v))
  | cons c rest ih =>
    unfold readOptions at ih ⊢
    rw [List.cons_append, readFlags, readFlags]
    split
    · split
      · exact .ofNone
      · exact .same
    · split
      · split
        · exact .ofNone
        · exact ih _ _ _ _
      · split
        · exact .ofNone
        · split
          · exact .ofNone
          · exact ih _ _ _ _

/-- What letters of options open. -/
def optionsStart : Flags × Bool → GroupStart
  | (flags, opens) => if opens then .group (.start flags none) else .options flags

theorem readGroupStart_options {number : Nat} {rest : List Char} (h : flags.skip text = '?' :: rest)
    (hrest : rest.head? ≠ some ')') : readGroupStart flags number text
      = (readOptions flags [] false false rest).map fun (options, rest) => (optionsStart options, rest) := by
  unfold readGroupStart
  split
  · next heq =>
    rw [h] at heq
    cases heq
    simp at hrest
  · next heq =>
    rw [h] at heq
    cases heq
    unfold readOptions
    cases readFlags flags [] false false rest with
    | none => rfl
    | some p => rfl
  · next heq => exact absurd h (heq rest)

theorem readGroupStart_none {number : Nat} {rest : List Char} (h : flags.skip text = '?' :: ')' :: rest) :
    readGroupStart flags number text = none := by
  simp only [readGroupStart, h]

theorem readGroupStart_group {number : Nat} (h : (flags.skip text).head? ≠ some '?') :
    readGroupStart flags number text
      = some (.group (.start flags (some number)), flags.skip text) := by
  unfold readGroupStart
  split
  · next heq => simp [heq] at h
  · next heq => simp [heq] at h
  · rfl

theorem leaves_readGroupStart (flags : Flags) (number : Nat) (text : List Char) :
    Leaves text (readGroupStart flags number text) := by
  by_cases h : (flags.skip text).head? = some '?'
  · obtain ⟨rest, hrest⟩ := List.head?_eq_some_iff.1 h
    by_cases hclose : rest.head? = some ')'
    · obtain ⟨more, rfl⟩ := List.head?_eq_some_iff.1 hclose
      rw [readGroupStart_none hrest]
      exact .ofNone
    · have hsuffix : '?' :: rest <:+ text := hrest ▸ flags.skip_suffix text
      have hoptions := (leaves_readOptions flags [] false false rest).ofTail
      rw [readGroupStart_options hrest hclose]
      exact (hoptions.trans ((List.suffix_cons _ rest).trans hsuffix)).map fun _ _ => rfl
  · rw [readGroupStart_group h]
    exact .ofSome (flags.skip_suffix text)

theorem parallel_readGroupStart (flags : Flags) (number : Nat) (text v : List Char) :
    Parallel Never v (readGroupStart flags number text)
      (readGroupStart flags number (text ++ ')' :: v)) := by
  refine .ofSkip flags (fun text => ?_) (leaves_readGroupStart flags number) ?_ fun c rest hc => ?_
  · simp only [readGroupStart, flags.skip_skip]
  · rw [readGroupStart_group (by simp), readGroupStart_group (by simp), flags.skip_nil,
      flags.skip_cons_parenthesis]
    exact .same
  · by_cases hmark : c = '?'
    · subst hmark
      cases rest with
      | nil =>
        rw [List.nil_append, readGroupStart_none (hc _)]
        exact .ofNone
      | cons d rest =>
        by_cases hclose : d = ')'
        · subst hclose
          rw [List.cons_append, readGroupStart_none (hc _), readGroupStart_none (hc _)]
          exact .ofNone
        · rw [readGroupStart_options (hc _) (by simpa using hclose),
            readGroupStart_options (hc _) (by simpa using hclose)]
          exact (parallel_readOptions flags [] false false (d :: rest) v).map fun _ _ => rfl
    · rw [readGroupStart_group (by simp [hc, hmark]), readGroupStart_group (by simp [hc, hmark]), hc, hc]
      exact .same

/-! ## Repetitions -/

theorem trimStart_parenthesis (text v : List Char) :
    Text.trimStart (text ++ ')' :: v) = Text.trimStart text ++ ')' :: v :=
  dropWhile_isBlank_parenthesis text v

/-- Puts a digit before those that are read after it. -/
theorem readDigits_digit {c : Char} (h : c.isDigit = true) (flags : Flags) (rest : List Char) :
    some (readDigits flags false (c :: rest))
      = (some (readDigits flags false rest)).map fun (digits, after) => (c :: digits, after) := by
  rw [readDigits, if_pos h]
  rfl

theorem leaves_readDigits (flags : Flags) (inComment : Bool) (text : List Char) :
    Leaves text (some (readDigits flags inComment text)) := by
  fun_induction readDigits flags inComment text with
  | case1 => exact .ofSome List.suffix_rfl
  | case2 c rest ih => exact ih.trans (List.suffix_cons c rest)
  | case3 c rest hdigit digits after hread ih =>
    rw [hread] at ih
    exact (ih.map (f := fun (digits, after) => (c :: digits, after)) fun _ _ => rfl).trans
      (List.suffix_cons c rest)
  | case4 c rest _ _ ih => exact ih.trans (List.suffix_cons c rest)
  | case5 c rest _ _ _ ih => exact ih.trans (List.suffix_cons c rest)
  | case6 => exact .ofSome List.suffix_rfl

theorem parallel_readDigits (flags : Flags) (inComment : Bool) (text v : List Char) :
    Parallel Never v (some (readDigits flags inComment text))
      (some (readDigits flags inComment (text ++ ')' :: v))) := by
  induction text generalizing inComment with
  | nil =>
    cases inComment with
    | true => exact .past (leaves_readDigits flags _ v)
    | false =>
      have hstop : readDigits flags false (')' :: v) = ([], ')' :: v) := by
        simp [readDigits, show Text.isBlank ')' = false from rfl]
      rw [List.nil_append, hstop]
      exact .same
  | cons c rest ih =>
    cases inComment with
    | true => exact ih _
    | false =>
      by_cases hdigit : c.isDigit = true
      · rw [List.cons_append, readDigits_digit hdigit, readDigits_digit hdigit]
        exact (ih false).map fun _ _ => rfl
      · rw [List.cons_append, readDigits, readDigits, if_neg hdigit, if_neg hdigit]
        split
        · exact ih _
        · split
          · exact ih _
          · exact .same

/-- The number that digits denote, and what is left after blanks. -/
def decimalOfDigits : List Char × List Char → Option (Nat × List Char)
  | (digits, after) =>
    match Text.Numeral.read UInt32.size digits with
    | .ok n => some (n, Text.trimStart after)
    | .error _ => none

theorem readDecimal_digit {c : Char} {rest : List Char} (htrim : Text.trimStart text = c :: rest)
    (h : c.isDigit = true) :
    readDecimal flags text = some (readDigits flags false (c :: rest)) >>= decimalOfDigits := by
  simp only [readDecimal, htrim, h]
  rfl

theorem readDecimal_none (h : ∀ c, (Text.trimStart text).head? = some c → c.isDigit = false) :
    readDecimal flags text = none := by
  unfold readDecimal
  split
  · rfl
  · next c rest heq => rw [if_pos (by simp [h c (by rw [heq]; rfl)])]

theorem leaves_decimalOfDigits (digits after : List Char) :
    Leaves after (decimalOfDigits (digits, after)) := by
  simp only [decimalOfDigits]
  split
  · exact .ofSome (List.dropWhile_suffix _)
  · exact .ofNone

theorem parallel_decimalOfDigits (digits left v : List Char) :
    Parallel Never v (decimalOfDigits (digits, left)) (decimalOfDigits (digits, left ++ ')' :: v)) := by
  simp only [decimalOfDigits, trimStart_parenthesis]
  split
  · exact .same
  · exact .ofNone

theorem leaves_readDecimal (flags : Flags) (text : List Char) : Leaves text (readDecimal flags text) := by
  cases htrim : Text.trimStart text with
  | nil =>
    rw [readDecimal_none (by simp [htrim])]
    exact .ofNone
  | cons c rest =>
    have hsuffix : c :: rest <:+ text := htrim ▸ List.dropWhile_suffix _
    by_cases hdigit : c.isDigit = true
    · rw [readDecimal_digit htrim hdigit]
      exact ((leaves_readDigits flags false _).trans hsuffix).bind leaves_decimalOfDigits
    · rw [readDecimal_none (by simpa [htrim] using hdigit)]
      exact .ofNone

theorem parallel_readDecimal (flags : Flags) (text v : List Char) :
    Parallel Never v (readDecimal flags text) (readDecimal flags (text ++ ')' :: v)) := by
  have hmore := trimStart_parenthesis text v
  cases htrim : Text.trimStart text with
  | nil =>
    rw [htrim] at hmore
    have hnone : readDecimal flags (text ++ ')' :: v) = none := readDecimal_none (by simp [hmore])
    rw [hnone]
    exact .ofNone
  | cons c rest =>
    rw [htrim] at hmore
    by_cases hdigit : c.isDigit = true
    · rw [readDecimal_digit htrim hdigit, readDecimal_digit hmore hdigit]
      exact (parallel_readDigits flags false (c :: rest) v).bind
        (fun digits left => parallel_decimalOfDigits digits left v) leaves_decimalOfDigits
        fun _ _ => False.elim
    · have hnone : readDecimal flags (text ++ ')' :: v) = none :=
        readDecimal_none (by simpa [hmore] using hdigit)
      rw [hnone]
      exact .ofNone

/-- Reads what follows the greatest number of rounds. -/
def boundsAfterMax (flags : Flags) (min max : Nat) : List Char → Option ((Nat × Option Nat) × List Char)
  | '\x7d' :: rest => if min ≤ max then some ((min, some max), flags.skip rest) else none
  | _ => none

/-- Reads what follows the comma behind the least number of rounds, where everything counts. -/
def boundsAfterComma (flags : Flags) (min : Nat) : List Char → Option ((Nat × Option Nat) × List Char)
  | '\x7d' :: rest => some ((min, none), flags.skip rest)
  | rest => readDecimal flags rest >>= fun (max, rest) => boundsAfterMax flags min max rest

/-- Reads what follows the least number of rounds. -/
def boundsAfterMin (flags : Flags) (min : Nat) : List Char → Option ((Nat × Option Nat) × List Char)
  | '\x7d' :: rest => some ((min, some min), flags.skip rest)
  | ',' :: rest => boundsAfterComma flags min (flags.skip rest)
  | _ => none

theorem readBounds_eq (flags : Flags) (text : List Char) : readBounds flags text
    = readDecimal flags (flags.skip text) >>= fun (min, rest) => boundsAfterMin flags min rest :=
  rfl

/-- Behind a brace that closes, what does not count is left out. -/
theorem leaves_skip_cons {α : Type} {x : α} {c : Char} {rest : List Char} :
    Leaves (c :: rest) (some (x, flags.skip rest)) :=
  .ofSome (flags.skip_suffix_cons c rest)

theorem parallel_skip {α : Type} {x : α} {rest : List Char} :
    Parallel Never v (some (x, flags.skip rest)) (some (x, flags.skip (rest ++ ')' :: v))) :=
  .afterSkip (R := fun rest => some (x, rest)) .same fun _ => .ofSome List.suffix_rfl

theorem boundsAfterMax_of_head_ne {min max : Nat} (h : text.head? ≠ some '\x7d') :
    boundsAfterMax flags min max text = none := by
  unfold boundsAfterMax
  split
  · simp at h
  · rfl

theorem leaves_boundsAfterMax (flags : Flags) (min max : Nat) (text : List Char) :
    Leaves text (boundsAfterMax flags min max text) := by
  unfold boundsAfterMax
  split
  · split
    · exact leaves_skip_cons
    · exact .ofNone
  · exact .ofNone

theorem parallel_boundsAfterMax (flags : Flags) (min max : Nat) (text v : List Char) :
    Parallel Never v (boundsAfterMax flags min max text)
      (boundsAfterMax flags min max (text ++ ')' :: v)) := by
  by_cases h : text.head? = some '\x7d'
  · obtain ⟨rest, rfl⟩ := List.head?_eq_some_iff.1 h
    simp only [List.cons_append, boundsAfterMax]
    split
    · exact parallel_skip
    · exact .ofNone
  · rw [boundsAfterMax_of_head_ne (head?_parenthesis_ne (by decide) h)]
    exact .ofNone

theorem boundsAfterComma_of_head_ne {min : Nat} (h : text.head? ≠ some '\x7d') :
    boundsAfterComma flags min text
      = readDecimal flags text >>= fun (max, rest) => boundsAfterMax flags min max rest := by
  unfold boundsAfterComma
  split
  · simp at h
  · rfl

theorem leaves_boundsAfterComma (flags : Flags) (min : Nat) (text : List Char) :
    Leaves text (boundsAfterComma flags min text) := by
  unfold boundsAfterComma
  split
  · exact leaves_skip_cons
  · exact (leaves_readDecimal flags _).bind fun max rest => leaves_boundsAfterMax flags min max rest

theorem parallel_boundsAfterComma (flags : Flags) (min : Nat) (text v : List Char) :
    Parallel Never v (boundsAfterComma flags min text) (boundsAfterComma flags min (text ++ ')' :: v)) := by
  by_cases h : text.head? = some '\x7d'
  · obtain ⟨rest, rfl⟩ := List.head?_eq_some_iff.1 h
    exact parallel_skip
  · rw [boundsAfterComma_of_head_ne h, boundsAfterComma_of_head_ne (head?_parenthesis_ne (by decide) h)]
    exact (parallel_readDecimal flags text v).bind
      (fun max left => parallel_boundsAfterMax flags min max left v)
      (fun max rest => leaves_boundsAfterMax flags min max rest) fun _ _ => False.elim

theorem boundsAfterMin_of_head_ne {min : Nat} (h : text.head? ≠ some '\x7d') (hcomma : text.head? ≠ some ',') :
    boundsAfterMin flags min text = none := by
  unfold boundsAfterMin
  split
  · simp at h
  · simp at hcomma
  · rfl

theorem leaves_boundsAfterMin (flags : Flags) (min : Nat) (text : List Char) :
    Leaves text (boundsAfterMin flags min text) := by
  unfold boundsAfterMin
  split
  · exact leaves_skip_cons
  · next rest =>
    exact (leaves_boundsAfterComma flags min _).trans
      (flags.skip_suffix_cons _ rest)
  · exact .ofNone

theorem parallel_boundsAfterMin (flags : Flags) (min : Nat) (text v : List Char) :
    Parallel Never v (boundsAfterMin flags min text) (boundsAfterMin flags min (text ++ ')' :: v)) := by
  by_cases h : text.head? = some '\x7d'
  · obtain ⟨rest, rfl⟩ := List.head?_eq_some_iff.1 h
    exact parallel_skip
  · by_cases hcomma : text.head? = some ','
    · obtain ⟨rest, rfl⟩ := List.head?_eq_some_iff.1 hcomma
      exact .afterSkip (R := boundsAfterComma flags min)
        (parallel_boundsAfterComma flags min (flags.skip rest) v) (leaves_boundsAfterComma flags min)
    · rw [boundsAfterMin_of_head_ne (head?_parenthesis_ne (by decide) h)
        (head?_parenthesis_ne (by decide) hcomma)]
      exact .ofNone

theorem leaves_readBounds (flags : Flags) (text : List Char) : Leaves text (readBounds flags text) := by
  rw [readBounds_eq]
  exact ((leaves_readDecimal flags _).trans (flags.skip_suffix text)).bind fun min rest =>
    leaves_boundsAfterMin flags min rest

theorem parallel_readBounds (flags : Flags) (text v : List Char) :
    Parallel Never v (readBounds flags text) (readBounds flags (text ++ ')' :: v)) := by
  rw [readBounds_eq, readBounds_eq]
  have hmin : Parallel Never v (readDecimal flags (flags.skip text))
      (readDecimal flags (flags.skip (text ++ ')' :: v))) :=
    .afterSkip (parallel_readDecimal flags _ v) (leaves_readDecimal flags)
  exact hmin.bind (fun min left => parallel_boundsAfterMin flags min left v)
    (fun min rest => leaves_boundsAfterMin flags min rest) fun _ _ => False.elim

theorem readBounds_of_skip (h : flags.skip text = []) : readBounds flags text = none := by
  rw [readBounds_eq, h]
  rfl

theorem leaves_readLazy (text : List Char) : Leaves text (some (readLazy text)) := by
  unfold readLazy
  split
  · exact .ofSome (List.suffix_cons _ _)
  · exact .ofSome List.suffix_rfl

theorem readLazy_of_head_ne (h : text.head? ≠ some '?') : readLazy text = (false, text) := by
  unfold readLazy
  split
  · simp at h
  · rfl

theorem parallel_readLazy (text v : List Char) :
    Parallel Never v (some (readLazy text)) (some (readLazy (text ++ ')' :: v))) := by
  by_cases h : text.head? = some '?'
  · obtain ⟨rest, rfl⟩ := List.head?_eq_some_iff.1 h
    exact .same
  · rw [readLazy_of_head_ne h, readLazy_of_head_ne (head?_parenthesis_ne (by decide) h)]
    exact .same

/-! ## Atoms -/

theorem leaves_readAtom (flags : Flags) (text : List Char) : Leaves text.tail (readAtom flags text) := by
  unfold readAtom
  split
  · exact .ofNone
  · next rest =>
    exact ((leaves_readEscape flags rest).ofTail).bind fun _ _ =>
      .bindValue fun _ => .ofSome List.suffix_rfl
  · split
    · exact .ofSome List.suffix_rfl
    · exact .ofNone
  · exact .ofSome List.suffix_rfl
  · exact .ofSome List.suffix_rfl
  · exact .mapValue List.suffix_rfl

/-- A term was read before a brace with nothing that counts behind it. -/
def StuckAtom (flags : Flags) (_ : Term) (left : List Char) : Prop :=
  OpenBrace flags left

theorem parallel_readAtom (flags : Flags) (text v : List Char) :
    Parallel (StuckAtom flags) v (readAtom flags text) (readAtom flags (text ++ ')' :: v)) := by
  rw [readAtom.eq_def flags text]
  split
  · exact .past (leaves_readAtom flags (')' :: v))
  · next rest =>
    refine (parallel_readEscape flags rest v).bind (fun _ _ => .bindValue fun _ => .same)
      (fun _ _ => .bindValue fun _ => .ofSome List.suffix_rfl) ?_
    rintro _ left ⟨⟨kind, rfl⟩, hbrace⟩
    exact .stop hbrace
  · simp only [List.cons_append, readAtom]
    split
    · exact .same
    · exact .ofNone
  · exact .same
  · exact .same
  · rw [List.cons_append, readAtom]
    · exact .mapValue
    all_goals assumption

/-! ## Groups -/

/-- What is read inside of a group. -/
inductive Move where
  /-- The start of a group in the group. -/
  | opens (inner : Level)
  /-- The end of the group. -/
  | closes
  /-- Anything else, given by the group after it. -/
  | goesOn (level : Level)

namespace Level

/-- What follows an opening parenthesis, as a part of the group around it. -/
def moveOfStart (level : Level) : GroupStart → Move
  | .group inner => .opens inner
  | .options flags => .goesOn (level.setFlags flags)

/-- The repetition of the last atom, as a part of the group; the text may start with the mark that makes it
lazy. -/
def repeatMove (level : Level) (min : Nat) (max : Option Nat) (text : List Char) :
    Option (Move × List Char) := do
  let (lazy, rest) ← some (readLazy text)
  (level.repeatLast min max lazy).map fun level => (.goesOn level, rest)

/-- Reads one part of a group where everything counts. -/
def readMove (level : Level) (number : Nat) : List Char → Option (Move × List Char)
  | [] => none
  | '(' :: rest => (readGroupStart level.flags number rest).map fun (start, rest) =>
    (level.moveOfStart start, rest)
  | ')' :: rest => some (.closes, rest)
  | '|' :: rest => some (.goesOn level.bar, rest)
  | '[' :: rest => (readClass level.flags rest).map fun (cls, rest) =>
    (.goesOn (level.push ⟨.ofSet level.flags.unicode cls.members, cls.depth⟩), rest)
  | '?' :: rest => level.repeatMove 0 (some 1) rest
  | '*' :: rest => level.repeatMove 0 none rest
  | '+' :: rest => level.repeatMove 1 none rest
  | '\x7b' :: rest => readBounds level.flags rest >>= fun ((min, max), rest) =>
    level.repeatMove min max rest
  | text => (readAtom level.flags text).map fun (atom, rest) => (.goesOn (level.push ⟨atom, 0⟩), rest)

theorem repeatMove_eq (level : Level) (min : Nat) (max : Option Nat) (text : List Char) :
    level.repeatMove min max text = (level.repeatLast min max (readLazy text).1).map fun level =>
      (.goesOn level, (readLazy text).2) :=
  rfl

/-- A repetition neither opens nor closes a group. -/
theorem goesOn_of_repeatMove {level : Level} {min : Nat} {max : Option Nat} {rest : List Char} {move : Move}
    (h : level.repeatMove min max text = some (move, rest)) : ∃ after, move = .goesOn after := by
  rw [repeatMove_eq] at h
  obtain ⟨after, -, ⟨⟩⟩ := Option.map_eq_some_iff.1 h
  exact ⟨after, rfl⟩

theorem leaves_repeatMove (level : Level) (min : Nat) (max : Option Nat) (text : List Char) :
    Leaves text (level.repeatMove min max text) :=
  (leaves_readLazy text).bind fun _ _ => .mapValue List.suffix_rfl

theorem parallel_repeatMove (level : Level) (min : Nat) (max : Option Nat) (text v : List Char) :
    Parallel Never v (level.repeatMove min max text) (level.repeatMove min max (text ++ ')' :: v)) :=
  (parallel_readLazy text v).bind (fun _ _ => .mapValue) (fun _ _ => .mapValue List.suffix_rfl)
    fun _ _ => False.elim

theorem leaves_readMove (level : Level) (number : Nat) (text : List Char) :
    Leaves text.tail (level.readMove number text) := by
  unfold readMove
  split
  · exact .ofNone
  · exact (leaves_readGroupStart level.flags number _).map fun _ _ => rfl
  · exact .ofSome List.suffix_rfl
  · exact .ofSome List.suffix_rfl
  · exact (leaves_readClass level.flags _).map fun _ _ => rfl
  · exact leaves_repeatMove level _ _ _
  · exact leaves_repeatMove level _ _ _
  · exact leaves_repeatMove level _ _ _
  · exact (leaves_readBounds level.flags _).bind fun (min, max) rest => leaves_repeatMove level min max rest
  · exact (leaves_readAtom level.flags _).map fun _ _ => rfl

/-- The group goes on before a brace with nothing that counts behind it. -/
def StuckMove (move : Move) (left : List Char) : Prop :=
  ∃ level, move = .goesOn level ∧ OpenBrace level.flags left

theorem parallel_readMove (level : Level) (number : Nat) (text v : List Char) :
    Parallel StuckMove v (level.readMove number text) (level.readMove number (text ++ ')' :: v)) := by
  rw [readMove.eq_def level number text]
  split
  · exact .past (leaves_readMove level number (')' :: v))
  · exact (parallel_readGroupStart level.flags number _ v).map fun _ _ => rfl
  · exact .same
  · exact .same
  · exact (parallel_readClass level.flags _ v).map fun _ _ => rfl
  · exact (parallel_repeatMove level _ _ _ v).weaken
  · exact (parallel_repeatMove level _ _ _ v).weaken
  · exact (parallel_repeatMove level _ _ _ v).weaken
  · exact (parallel_readBounds level.flags _ v).bind
      (fun (min, max) left => (parallel_repeatMove level min max left v).weaken)
      (fun (min, max) rest => leaves_repeatMove level min max rest) fun _ _ => False.elim
  · next hnil _ _ _ _ _ _ _ _ =>
    obtain ⟨c, rest, rfl⟩ := List.exists_cons_of_ne_nil hnil
    rw [List.cons_append, readMove]
    · exact (parallel_readAtom level.flags (c :: rest) v).mapStuck (fun _ _ => rfl)
        fun _ left hbrace => ⟨_, rfl, hbrace⟩
    · exact List.cons_ne_nil _ _
    -- the first character is none of those that the other parts start with
    all_goals
      rintro _ ⟨⟩
      simp_all

end Level

/-- A place in a pattern: the number of the next group that is counted, the groups around the innermost one
and the innermost one. -/
structure Place where
  number : Nat
  outer : List Level
  level : Level

namespace Place

/-- The place after a part of the innermost group. A group that is not open cannot be closed. -/
def next (place : Place) : Move → Option Place
  | .opens inner =>
    some ⟨if inner.number.isSome then place.number + 1 else place.number, place.level :: place.outer, inner⟩
  | .closes =>
    match place.outer with
    | [] => none
    | parent :: outer => some ⟨place.number, outer, parent.push place.level.close⟩
  | .goesOn level => some { place with level := level }

/-- Reads the rest of a pattern from a place on. -/
def read (place : Place) (fuel : Nat) (text : List Char) : Option Piece :=
  readRest fuel place.number place.outer place.level text

/-- Reads the next part of the innermost group. -/
def readMove (place : Place) (text : List Char) : Option (Move × List Char) :=
  place.level.readMove place.number (place.level.flags.skip text)

theorem read_succ (place : Place) (fuel : Nat) (text : List Char) :
    place.read (fuel + 1) text =
      if place.level.flags.skip text = [] then if place.outer.isEmpty then some place.level.whole else none
      else place.readMove text >>= fun (move, rest) => place.next move >>= fun next => next.read fuel rest := by
  unfold readMove read
  rw [readRest]
  generalize place.level.flags.skip text = text
  have hrepeat : ∀ min max rest,
      (place.level.repeatLast min max (readLazy rest).1 >>= fun level =>
          readRest fuel place.number place.outer level (readLazy rest).2)
        = place.level.repeatMove min max rest >>= fun (move, rest) =>
          place.next move >>= fun next => readRest fuel next.number next.outer next.level rest := by
    intro min max rest
    rw [Level.repeatMove_eq]
    cases place.level.repeatLast min max (readLazy rest).1 with
    | none => rfl
    | some level => rfl
  split
  · rfl
  · next rest =>
    simp only [Level.readMove]
    cases readGroupStart place.level.flags place.number rest with
    | none => rfl
    | some p =>
      obtain ⟨start, rest⟩ := p
      cases start with
      | group inner => rfl
      | options flags => rfl
  · rw [if_neg (List.cons_ne_nil _ _)]
    show _ = (place.next .closes >>= fun next => _)
    unfold next
    cases place.outer with
    | nil => rfl
    | cons parent outer => rfl
  · rfl
  · next rest =>
    simp only [Level.readMove]
    cases readClass place.level.flags rest with
    | none => rfl
    | some p => rfl
  · exact hrepeat _ _ _
  · exact hrepeat _ _ _
  · exact hrepeat _ _ _
  · next rest =>
    simp only [Level.readMove]
    cases readBounds place.level.flags rest with
    | none => rfl
    | some p => exact hrepeat _ _ _
  · rw [if_neg (by assumption), Level.readMove]
    · cases readAtom place.level.flags text with
      | none => rfl
      | some p => rfl
    all_goals assumption

end Place

end NamedData.TextPattern
