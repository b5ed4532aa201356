import NamedData.Proofs.TextPattern.EscapeReader
import NamedData.TextPattern.Class

/-!
# Classes before a closing parenthesis

A class is read part by part: `readClassRest` repeats `readClassMove` with the classes that are still open. An
item is refused at the end of the text, but read before a parenthesis (`AtEnd`); the class is still open there,
so that its next part takes the parenthesis.

Every part takes a character at least. So the fuel of `readClassRest` counts for nothing once there is as much
of it as the text is long (`readClassRest_fuel`).
-/

namespace NamedData.TextPattern

open Unicode (Charset)

variable {flags : Flags} {text v : List Char}

/-! ## Items and ranges -/

theorem leaves_readItem (flags : Flags) (text : List Char) : Leaves text.tail (readItem flags text) := by
  unfold readItem
  split
  · exact .ofNone
  · next rest => exact (leaves_readEscape flags rest).ofTail
  · exact .ofSome List.suffix_rfl

theorem parallel_readItem (flags : Flags) (text v : List Char) :
    Parallel (StuckEdge flags) v (readItem flags text) (readItem flags (text ++ ')' :: v)) := by
  cases text with
  | nil => exact .past (leaves_readItem flags (')' :: v))
  | cons c rest =>
    by_cases hescape : c = '\\'
    · subst hescape
      exact parallel_readEscape flags rest v
    · simp only [List.cons_append, readItem]
      exact .same

theorem dropWhile_isBlank_parenthesis (text v : List Char) :
    (text ++ ')' :: v).dropWhile Text.isBlank = text.dropWhile Text.isBlank ++ ')' :: v := by
  rw [List.dropWhile_append]
  split
  · next hempty =>
    rw [List.isEmpty_iff.1 hempty]
    rfl
  · rfl

theorem peek_parenthesis_iff {c : Char} (hc : c ≠ ')') (flags : Flags) (text v : List Char) :
    flags.peek (text ++ ')' :: v) = some c ↔ flags.peek text = some c := by
  have hhead : ∀ text : List Char, (text ++ ')' :: v).head? = some c ↔ text.head? = some c := by
    intro text
    cases text with
    | nil => simpa using hc.symm
    | cons d rest => rfl
  unfold Flags.peek
  rw [dropWhile_isBlank_parenthesis]
  split
  · cases text.dropWhile Text.isBlank with
    | nil => exact hhead []
    | cons d rest =>
      by_cases hcomment : d = '#'
      · subst hcomment
        simp only [List.cons_append, dropWhile_isBlank_parenthesis]
        exact hhead _
      · simp [hcomment]
  · exact hhead text

/-- The range from an item to the one behind its hyphen. -/
def rangeBetween (flags : Flags) (first : Primitive) :
    Primitive × List Char → Option (Charset × List Char)
  | (second, rest) =>
    match first, second with
    | .literal low _, .literal high _ => do
      let low ← classLiteral flags low
      let high ← classLiteral flags high
      if low ≤ high then return (.range low high, rest) else none
    | _, _ => none

/-- Reads what follows an item, from a text at whose start everything counts. -/
def rangeAfter (flags : Flags) (first : Primitive) : List Char → Option (Charset × List Char)
  | [] => none
  | '-' :: rest => do
    let next := flags.peek rest
    if next = some ']' ∨ next = some '-' then return (← itemClass flags first, '-' :: rest)
    else rangeBetween flags first (← readItem flags (flags.skip rest))
  | rest => return (← itemClass flags first, rest)

theorem readRange_eq (flags : Flags) (text : List Char) : readRange flags text
    = readItem flags text >>= fun (first, rest) => rangeAfter flags first (flags.skip rest) :=
  rfl

theorem rangeAfter_cons_of_ne {c : Char} (hc : c ≠ '-') (flags : Flags) (first : Primitive)
    (rest : List Char) :
    rangeAfter flags first (c :: rest) = (itemClass flags first).map (·, c :: rest) := by
  simp only [rangeAfter, List.cons.injEq, hc, false_and, imp_false, not_false_eq_true, implies_true]
  exact Option.map_eq_bind.symm

theorem leaves_rangeBetween (flags : Flags) (first second : Primitive) (rest : List Char) :
    Leaves rest (rangeBetween flags first (second, rest)) := by
  simp only [rangeBetween]
  split
  · refine .bindValue fun low => .bindValue fun high => ?_
    split
    · exact .ofSome List.suffix_rfl
    · exact .ofNone
  · exact .ofNone

theorem parallel_rangeBetween (flags : Flags) (first second : Primitive) (left v : List Char) :
    Parallel Never v (rangeBetween flags first (second, left))
      (rangeBetween flags first (second, left ++ ')' :: v)) := by
  simp only [rangeBetween]
  split
  · refine .bindValue fun low => .bindValue fun high => ?_
    split
    · exact .same
    · exact .ofNone
  · exact .ofNone

theorem leaves_rangeAfter (flags : Flags) (first : Primitive) (text : List Char) :
    Leaves text (rangeAfter flags first text) := by
  unfold rangeAfter
  split
  · exact .ofNone
  · next rest =>
    dsimp only
    split
    · exact .bindValue fun _ => .ofSome List.suffix_rfl
    · have hitem := (leaves_readItem flags (flags.skip rest)).ofTail
      exact (hitem.trans (flags.skip_suffix_cons _ rest)).bind
        (leaves_rangeBetween flags first)
  · exact .bindValue fun _ => .ofSome List.suffix_rfl

/-- Nothing is left of the text. -/
def AtEnd (_ : α) (left : List Char) : Prop :=
  left = []

theorem parallel_rangeAfter (flags : Flags) (first : Primitive) (text v : List Char) :
    Parallel AtEnd v (rangeAfter flags first text) (rangeAfter flags first (text ++ ')' :: v)) := by
  cases text with
  | nil =>
    intro x rest hwhole
    obtain ⟨members, -, ⟨⟩⟩ := Option.bind_eq_some_iff.1 hwhole
    exact .inr (.inr ⟨[], rfl, rfl⟩)
  | cons c rest =>
    by_cases hhyphen : c = '-'
    · subst hhyphen
      simp only [List.cons_append, rangeAfter, peek_parenthesis_iff (show ']' ≠ ')' by decide),
        peek_parenthesis_iff (show '-' ≠ ')' by decide)]
      split
      · exact .bindValue fun _ => .same
      · have hitem : Parallel (StuckEdge flags) v (readItem flags (flags.skip rest))
            (readItem flags (flags.skip (rest ++ ')' :: v))) :=
          .afterSkip (parallel_readItem flags (flags.skip rest) v) fun text =>
            (leaves_readItem flags text).ofTail
        refine hitem.bind (fun second left => (parallel_rangeBetween flags first second left v).weaken)
          (leaves_rangeBetween flags first) ?_
        -- a position is no end of a range
        rintro _ left ⟨⟨kind, rfl⟩, -⟩
        simp only [rangeBetween]
        exact .ofNone
    · rw [List.cons_append, rangeAfter_cons_of_ne hhyphen, rangeAfter_cons_of_ne hhyphen]
      exact .mapValue

theorem leaves_readRange (flags : Flags) (text : List Char) : Leaves text.tail (readRange flags text) := by
  rw [readRange_eq]
  exact (leaves_readItem flags text).bind fun first rest =>
    (leaves_rangeAfter flags first _).trans (flags.skip_suffix rest)

theorem parallel_readRange (flags : Flags) (text v : List Char) :
    Parallel AtEnd v (readRange flags text) (readRange flags (text ++ ')' :: v)) := by
  rw [readRange_eq, readRange_eq]
  refine (parallel_readItem flags text v).bind (fun first left => ?_) (fun first rest => ?_) ?_
  · exact .afterSkip (parallel_rangeAfter flags first (flags.skip left) v) (leaves_rangeAfter flags first)
  · exact (leaves_rangeAfter flags first _).trans (flags.skip_suffix rest)
  · -- a position is no item of a class
    rintro _ _ ⟨⟨kind, rfl⟩, inner, rfl, -⟩
    simp only [List.cons_append, flags.skip_cons_brace]
    rw [rangeAfter_cons_of_ne (by decide)]
    exact .ofNone

/-! ## Named classes -/

/-- Reads what closes the name of a class. -/
def closeName (negated : Bool) (name : List Char) : List Char → Option ((Charset × Bool) × List Char)
  | ':' :: ']' :: rest => (asciiClass? (String.ofList name)).map fun members => ((members, negated), rest)
  | _ => none

/-- Reads the name of a class and what closes it. -/
def readName (negated : Bool) (text : List Char) : Option ((Charset × Bool) × List Char) :=
  closeName negated (text.takeWhile (· ≠ ':')) (text.dropWhile (· ≠ ':'))

theorem drop_length_takeWhile (p : Char → Bool) (text : List Char) :
    text.drop (text.takeWhile p).length = text.dropWhile p := by
  induction text with
  | nil => rfl
  | cons c rest ih =>
    rw [List.takeWhile_cons, List.dropWhile_cons]
    split
    · exact ih
    · rfl

theorem readNamed_caret (rest : List Char) : readNamed (':' :: '^' :: rest) = readName true rest := by
  simp only [readNamed, drop_length_takeWhile]
  rfl

theorem readNamed_colon (h : text.head? ≠ some '^') : readNamed (':' :: text) = readName false text := by
  cases text with
  | nil => rfl
  | cons c rest =>
    have hc : c ≠ '^' := by simpa using h
    simp only [readNamed, List.cons.injEq, hc, false_and, imp_false, not_false_eq_true, implies_true,
      drop_length_takeWhile]
    rfl

theorem readNamed_of_head_ne (h : text.head? ≠ some ':') : readNamed text = none := by
  unfold readNamed
  split
  · simp at h
  · rfl

theorem leaves_closeName (negated : Bool) (name text : List Char) :
    Leaves text (closeName negated name text) := by
  unfold closeName
  split
  · next rest =>
    exact .mapValue ((List.suffix_cons _ rest).trans (List.suffix_cons _ _))
  · exact .ofNone

theorem closeName_colon (negated : Bool) (name text v : List Char) :
    closeName negated name (':' :: text ++ ')' :: v)
      = (closeName negated name (':' :: text)).map fun (cls, left) => (cls, left ++ ')' :: v) := by
  cases text with
  | nil => rfl
  | cons c rest =>
    by_cases hbracket : c = ']'
    · subst hbracket
      simp [closeName, Function.comp_def]
    · simp [closeName, hbracket]

/-- What is read from a text is read from the longer one too, and nothing else unless the parenthesis is
read. -/
theorem readName_parenthesis (negated : Bool) (text v : List Char) :
    readName negated (text ++ ')' :: v)
        = (readName negated text).map (fun (cls, left) => (cls, left ++ ')' :: v))
      ∨ readName negated text = none ∧ Leaves v (readName negated (text ++ ')' :: v)) := by
  unfold readName
  rw [List.dropWhile_append, List.takeWhile_append]
  cases h : text.dropWhile (· ≠ ':') with
  | nil =>
    refine .inr ⟨rfl, (leaves_closeName _ _ _).trans ?_⟩
    exact List.dropWhile_suffix (l := v) _
  | cons c rest => 
    have hlength := congrArg List.length (List.takeWhile_append_dropWhile (p := (· ≠ ':')) (l := text))
    rw [List.length_append, h, List.length_cons] at hlength
    obtain rfl : c = ':' := by
      have hhead := List.head?_dropWhile_not (· ≠ ':') text
      rw [h] at hhead
      simpa using hhead
    rw [if_neg (by omega), List.isEmpty_cons, if_neg Bool.false_ne_true]
    exact .inl (closeName_colon negated _ rest v)

theorem readNamed_parenthesis (text v : List Char) :
    readNamed (text ++ ')' :: v) = (readNamed text).map (fun (cls, left) => (cls, left ++ ')' :: v))
      ∨ readNamed text = none ∧ Leaves v (readNamed (text ++ ')' :: v)) := by
  by_cases hcolon : text.head? = some ':'
  · obtain ⟨rest, rfl⟩ := List.head?_eq_some_iff.1 hcolon
    by_cases hcaret : rest.head? = some '^'
    · obtain ⟨rest, rfl⟩ := List.head?_eq_some_iff.1 hcaret
      simp only [List.cons_append, readNamed_caret]
      exact readName_parenthesis true rest v
    · rw [List.cons_append, readNamed_colon hcaret,
        readNamed_colon (head?_parenthesis_ne (by decide) hcaret)]
      exact readName_parenthesis false rest v
  · rw [readNamed_of_head_ne hcolon, readNamed_of_head_ne (head?_parenthesis_ne (by decide) hcolon)]
    exact .inl rfl

theorem leaves_readName (negated : Bool) (text : List Char) : Leaves text (readName negated text) :=
  (leaves_closeName _ _ _).trans (List.dropWhile_suffix _)

theorem leaves_readNamed (text : List Char) : Leaves text (readNamed text) := by
  by_cases hcolon : text.head? = some ':'
  · obtain ⟨rest, rfl⟩ := List.head?_eq_some_iff.1 hcolon
    by_cases hcaret : rest.head? = some '^'
    · obtain ⟨rest, rfl⟩ := List.head?_eq_some_iff.1 hcaret
      rw [readNamed_caret]
      exact (leaves_readName true rest).trans ((List.suffix_cons _ _).trans (List.suffix_cons _ _))
    · rw [readNamed_colon hcaret]
      exact (leaves_readName false rest).trans (List.suffix_cons _ _)
  · rw [readNamed_of_head_ne hcolon]
    exact .ofNone

/-! ## The start of a class -/

namespace OpenClass

variable {cls : OpenClass} {fuel fuel' : Nat}

theorem readHyphens_hyphen (flags : Flags) (fuel : Nat) (cls : OpenClass) (rest : List Char) :
    readHyphens flags (fuel + 1) cls ('-' :: rest)
      = readHyphens flags fuel (cls.add (.single '-') 0) (flags.skip rest) :=
  rfl

theorem readHyphens_of_head_ne (h : text.head? ≠ some '-') :
    readHyphens flags fuel cls text = (cls, text) := by
  unfold readHyphens
  split
  · rfl
  · split
    · simp at h
    · rfl

theorem leaves_readHyphens (flags : Flags) (fuel : Nat) (cls : OpenClass) (text : List Char) :
    Leaves text (some (readHyphens flags fuel cls text)) := by
  induction fuel generalizing cls text with
  | zero => exact .ofSome List.suffix_rfl
  | succ fuel ih =>
    by_cases h : text.head? = some '-'
    · obtain ⟨rest, rfl⟩ := List.head?_eq_some_iff.1 h
      rw [readHyphens_hyphen]
      exact (ih _ _).trans (flags.skip_suffix_cons _ rest)
    · rw [readHyphens_of_head_ne h]
      exact .ofSome List.suffix_rfl

/-- Every hyphen takes a character, so the length of the text is fuel enough. -/
theorem readHyphens_fuel (h : text.length ≤ fuel) (h' : text.length ≤ fuel') :
    readHyphens flags fuel cls text = readHyphens flags fuel' cls text := by
  induction fuel generalizing fuel' cls text with
  | zero =>
    obtain rfl := List.eq_nil_of_length_eq_zero (Nat.le_zero.1 h)
    rw [readHyphens_of_head_ne (by simp), readHyphens_of_head_ne (by simp)]
  | succ fuel ih =>
    by_cases hhead : text.head? = some '-'
    · obtain ⟨rest, rfl⟩ := List.head?_eq_some_iff.1 hhead
      rw [List.length_cons] at h h'
      obtain ⟨fuel', rfl⟩ := Nat.exists_eq_add_of_le' (Nat.le_of_add_left_le h')
      have hskip := (flags.skip_suffix rest).length_le
      rw [readHyphens_hyphen, readHyphens_hyphen]
      exact ih (by omega) (by omega)
    · rw [readHyphens_of_head_ne hhead, readHyphens_of_head_ne hhead]

theorem parallel_readHyphens (flags : Flags) (fuel : Nat) (cls : OpenClass) (text v : List Char) :
    Parallel Never v (some (readHyphens flags fuel cls text))
      (some (readHyphens flags fuel cls (text ++ ')' :: v))) := by
  induction fuel generalizing cls text with
  | zero => exact .same
  | succ fuel ih =>
    by_cases h : text.head? = some '-'
    · obtain ⟨rest, rfl⟩ := List.head?_eq_some_iff.1 h
      rw [List.cons_append, readHyphens_hyphen, readHyphens_hyphen]
      exact .afterSkip (R := fun text => some (readHyphens flags fuel _ text)) (ih _ _)
        (leaves_readHyphens flags fuel _)
    · rw [readHyphens_of_head_ne h, readHyphens_of_head_ne (head?_parenthesis_ne (by decide) h)]
      exact .same

/-- Reads the start of a class after the caret, if there is one, where everything counts. -/
def startAfterCaret (flags : Flags) (negated : Bool) : List Char → OpenClass × List Char
  | ']' :: rest => ((start negated).add (.single ']') 0, flags.skip rest)
  | text => readHyphens flags text.length (start negated) text

theorem startAfterCaret_of_head_ne {negated : Bool} (h : text.head? ≠ some ']') :
    startAfterCaret flags negated text = readHyphens flags text.length (start negated) text := by
  unfold startAfterCaret
  split
  · simp at h
  · rfl

theorem leaves_startAfterCaret (flags : Flags) (negated : Bool) (text : List Char) :
    Leaves text (some (startAfterCaret flags negated text)) := by
  by_cases h : text.head? = some ']'
  · obtain ⟨rest, rfl⟩ := List.head?_eq_some_iff.1 h
    exact .ofSome (flags.skip_suffix_cons _ rest)
  · rw [startAfterCaret_of_head_ne h]
    exact leaves_readHyphens flags _ _ text

theorem parallel_startAfterCaret (flags : Flags) (negated : Bool) (text v : List Char) :
    Parallel Never v (some (startAfterCaret flags negated text))
      (some (startAfterCaret flags negated (text ++ ')' :: v))) := by
  by_cases h : text.head? = some ']'
  · obtain ⟨rest, rfl⟩ := List.head?_eq_some_iff.1 h
    exact .afterSkip (R := fun text => some (_, text)) .same fun _ => .ofSome List.suffix_rfl
  · rw [startAfterCaret_of_head_ne h, startAfterCaret_of_head_ne (head?_parenthesis_ne (by decide) h),
      readHyphens_fuel (Nat.le_refl _) (List.prefix_append text (')' :: v)).length_le]
    exact parallel_readHyphens flags _ _ text v

theorem readStart_caret {rest : List Char} (h : flags.skip text = '^' :: rest) :
    readStart flags text = startAfterCaret flags true (flags.skip rest) := by
  simp only [readStart, h]
  rfl

theorem readStart_of_head_ne (h : (flags.skip text).head? ≠ some '^') :
    readStart flags text = startAfterCaret flags false (flags.skip text) := by
  unfold readStart
  cases hskip : flags.skip text with
  | nil => rfl
  | cons c rest =>
    have hc : c ≠ '^' := by simpa [hskip] using h
    simp only [List.cons.injEq, hc, false_and, imp_false, not_false_eq_true, implies_true]
    rfl

theorem leaves_readStart (flags : Flags) (text : List Char) : Leaves text (some (readStart flags text)) := by
  by_cases h : (flags.skip text).head? = some '^'
  · obtain ⟨rest, hrest⟩ := List.head?_eq_some_iff.1 h
    have hsuffix := flags.skip_suffix_cons '^' rest
    rw [← hrest] at hsuffix
    rw [readStart_caret hrest]
    exact (leaves_startAfterCaret flags true _).trans (hsuffix.trans (flags.skip_suffix text))
  · rw [readStart_of_head_ne h]
    exact (leaves_startAfterCaret flags false _).trans (flags.skip_suffix text)

theorem parallel_readStart (flags : Flags) (text v : List Char) :
    Parallel Never v (some (readStart flags text)) (some (readStart flags (text ++ ')' :: v))) := by
  refine .ofSkip (R := fun text => some (readStart flags text)) flags (fun text => ?_)
    (leaves_readStart flags) ?_ fun c rest hc => ?_
  · simp only [readStart, flags.skip_skip]
  · rw [readStart_of_head_ne (by simp), readStart_of_head_ne (by simp), flags.skip_nil,
      flags.skip_cons_parenthesis]
    exact parallel_startAfterCaret flags false [] v
  · by_cases hcaret : c = '^'
    · subst hcaret
      rw [readStart_caret (hc rest), readStart_caret (hc _)]
      exact .afterSkip (R := fun text => some (startAfterCaret flags true text))
        (parallel_startAfterCaret flags true _ v) (leaves_startAfterCaret flags true)
    · rw [readStart_of_head_ne (by simp [hc, hcaret]), readStart_of_head_ne (by simp [hc, hcaret]), hc, hc]
      exact parallel_startAfterCaret flags false (c :: rest) v

end OpenClass

/-! ## Classes -/

/-- What is read inside of a class. -/
inductive ClassMove where
  /-- The start of a class in the class. -/
  | opens (inner : OpenClass)
  /-- The end of the class. -/
  | closes
  /-- An item or an operation, given by the class after it. -/
  | goesOn (cls : OpenClass)

/-- Reads one part of a class where everything counts. -/
def readClassMove (flags : Flags) (cls : OpenClass) : List Char → Option (ClassMove × List Char)
  | [] => none
  | '[' :: rest =>
    match readNamed rest with
    | some ((members, negated), rest) => do
      let members ← flags.negateIf negated (flags.fold members)
      return (.goesOn (cls.add members 0), rest)
    | none => (some (OpenClass.readStart flags rest)).map fun (inner, rest) => (.opens inner, rest)
  | ']' :: rest => some (.closes, rest)
  | '&' :: '&' :: rest => some (.goesOn (cls.operate flags .inter), rest)
  | '-' :: '-' :: rest => some (.goesOn (cls.operate flags .diff), rest)
  | '~' :: '~' :: rest => some (.goesOn (cls.operate flags .symmDiff), rest)
  | text => (readRange flags text).map fun (members, rest) => (.goesOn (cls.add members 0), rest)

/-- Reads the rest of a class after one part. -/
def readClassAfter (flags : Flags) (fuel : Nat) (outer : List OpenClass) (cls : OpenClass) :
    ClassMove × List Char → Option (Nested × List Char)
  | (.opens inner, rest) => readClassRest flags fuel (cls :: outer) inner rest
  | (.closes, rest) => do
    let value ← cls.close flags
    match outer with
    | [] => return (value, rest)
    | parent :: outer => readClassRest flags fuel outer (parent.add value.members value.depth) rest
  | (.goesOn cls, rest) => readClassRest flags fuel outer cls rest

theorem readClassRest_succ (flags : Flags) (fuel : Nat) (outer : List OpenClass) (cls : OpenClass)
    (text : List Char) : readClassRest flags (fuel + 1) outer cls text
      = readClassMove flags cls (flags.skip text) >>= readClassAfter flags fuel outer cls := by
  rw [readClassRest]
  generalize flags.skip text = text
  split
  · rfl
  · next rest =>
    simp only [readClassMove]
    cases readNamed rest with
    | none => rfl
    | some p =>
      dsimp only
      rw [Option.bind_eq_bind, Option.bind_eq_bind, Option.bind_eq_bind, Option.bind_assoc]
      rfl
  · rfl
  · rfl
  · rfl
  · rfl
  · rw [readClassMove]
    · cases readRange flags text with
      | none => rfl
      | some p => rfl
    all_goals assumption

theorem leaves_readClassMove (flags : Flags) (cls : OpenClass) (text : List Char) :
    Leaves text.tail (readClassMove flags cls text) := by
  unfold readClassMove
  split
  · exact .ofNone
  · next rest =>
    split
    · next hnamed =>
      have hsuffix := leaves_readNamed rest _ _ hnamed
      exact .bindValue fun _ => .ofSome hsuffix
    · exact (OpenClass.leaves_readStart flags rest).map fun _ _ => rfl
  · exact .ofSome List.suffix_rfl
  · exact .ofSome (List.suffix_cons _ _)
  · exact .ofSome (List.suffix_cons _ _)
  · exact .ofSome (List.suffix_cons _ _)
  · exact (leaves_readRange flags _).map fun _ _ => rfl

theorem eq_cons_of_append_parenthesis {c : Char} {rest : List Char} (hc : c ≠ ')')
    (h : text ++ ')' :: v = c :: rest) : ∃ left, text = c :: left ∧ rest = left ++ ')' :: v := by
  cases text with
  | nil =>
    cases h
    exact absurd rfl hc
  | cons d left =>
    cases h
    exact ⟨left, rfl, rfl⟩

theorem eq_cons_cons_of_append_parenthesis {c d : Char} {rest : List Char} (hc : c ≠ ')') (hd : d ≠ ')')
    (h : text ++ ')' :: v = c :: d :: rest) : ∃ left, text = c :: d :: left := by
  obtain ⟨left, rfl, hleft⟩ := eq_cons_of_append_parenthesis hc h
  obtain ⟨left, rfl, -⟩ := eq_cons_of_append_parenthesis hd hleft.symm
  exact ⟨left, rfl⟩

/-- The class goes on where nothing is left. -/
def StuckClassMove (move : ClassMove) (left : List Char) : Prop :=
  (∃ cls, move = .goesOn cls) ∧ left = []

theorem parallel_readClassMove (flags : Flags) (cls : OpenClass) (text v : List Char) :
    Parallel StuckClassMove v (readClassMove flags cls text) (readClassMove flags cls (text ++ ')' :: v)) := by
  rw [readClassMove.eq_def flags cls text]
  split
  · exact .past (leaves_readClassMove flags cls (')' :: v))
  · next rest =>
    have hstart : Parallel StuckClassMove v
        ((some (OpenClass.readStart flags rest)).map fun (inner, rest) => (ClassMove.opens inner, rest))
        ((some (OpenClass.readStart flags (rest ++ ')' :: v))).map fun (inner, rest) =>
          (ClassMove.opens inner, rest)) :=
      (OpenClass.parallel_readStart flags rest v).map fun _ _ => rfl
    simp only [List.cons_append, readClassMove]
    rcases readNamed_parenthesis rest v with heq | ⟨hnone, hpast⟩
    · rw [heq]
      cases readNamed rest with
      | none => exact hstart
      | some p => exact .bindValue fun _ => .same
    · rw [hnone]
      cases hnamed : readNamed (rest ++ ')' :: v) with
      | none => exact hstart
      | some p => exact .past (.bindValue fun _ => .ofSome (hpast _ _ hnamed))
  · exact .same
  · exact .same
  · exact .same
  · exact .same
  · next hnil hbracket hclose hinter hdiff hsymmDiff =>
    rw [readClassMove]
    · exact (parallel_readRange flags text v).mapStuck (fun _ _ => rfl) fun _ _ hleft => ⟨⟨_, rfl⟩, hleft⟩
    · simp
    · intro rest heq
      obtain ⟨left, rfl, -⟩ := eq_cons_of_append_parenthesis (by decide) heq
      exact hbracket left rfl
    · intro rest heq
      obtain ⟨left, rfl, -⟩ := eq_cons_of_append_parenthesis (by decide) heq
      exact hclose left rfl
    · intro rest heq
      obtain ⟨left, rfl⟩ := eq_cons_cons_of_append_parenthesis (by decide) (by decide) heq
      exact hinter left rfl
    · intro rest heq
      obtain ⟨left, rfl⟩ := eq_cons_cons_of_append_parenthesis (by decide) (by decide) heq
      exact hdiff left rfl
    · intro rest heq
      obtain ⟨left, rfl⟩ := eq_cons_cons_of_append_parenthesis (by decide) (by decide) heq
      exact hsymmDiff left rfl

section Rest

variable {fuel fuel' : Nat} {outer : List OpenClass} {cls : OpenClass}

theorem leaves_readClassAfter (h : ∀ outer cls text, Leaves text (readClassRest flags fuel outer cls text))
    (move : ClassMove) (rest : List Char) :
    Leaves rest (readClassAfter flags fuel outer cls (move, rest)) := by
  cases move with
  | opens inner => exact h _ _ rest
  | closes =>
    refine .bindValue fun value => ?_
    cases outer with
    | nil => exact .ofSome List.suffix_rfl
    | cons parent outer => exact h _ _ rest
  | goesOn cls => exact h _ _ rest

theorem leaves_readClassRest (flags : Flags) (fuel : Nat) (outer : List OpenClass) (cls : OpenClass)
    (text : List Char) : Leaves text.tail (readClassRest flags fuel outer cls text) := by
  induction fuel generalizing outer cls text with
  | zero => exact .ofNone
  | succ fuel ih =>
    rw [readClassRest_succ]
    have hmove := (leaves_readClassMove flags cls (flags.skip text)).trans (flags.tail_skip_suffix text)
    exact hmove.bind (leaves_readClassAfter fun _ _ text => (ih _ _ text).ofTail)

theorem parallel_readClassRest (flags : Flags) (fuel : Nat) (outer : List OpenClass) (cls : OpenClass)
    (text v : List Char) : Parallel Never v (readClassRest flags fuel outer cls text)
      (readClassRest flags fuel outer cls (text ++ ')' :: v)) := by
  induction fuel generalizing outer cls text with
  | zero => exact .ofNone
  | succ fuel ih =>
    rw [readClassRest_succ, readClassRest_succ]
    have hmove : Parallel StuckClassMove v (readClassMove flags cls (flags.skip text))
        (readClassMove flags cls (flags.skip (text ++ ')' :: v))) :=
      .afterSkip (parallel_readClassMove flags cls (flags.skip text) v) fun text =>
        (leaves_readClassMove flags cls text).ofTail
    refine hmove.bind (fun move left => ?_) (leaves_readClassAfter fun _ _ text =>
      (leaves_readClassRest flags fuel _ _ text).ofTail) ?_
    · cases move with
      | opens inner => exact ih _ _ left
      | closes =>
        refine .bindValue fun value => ?_
        cases outer with
        | nil => exact .same
        | cons parent outer => exact ih _ _ left
      | goesOn cls => exact ih _ _ left
    · rintro _ _ ⟨⟨cls, rfl⟩, rfl⟩
      exact .past (leaves_readClassRest flags fuel outer cls (')' :: v))

/-- Every part of a class takes a character, so one more than the length of the text is fuel enough. -/
theorem readClassRest_fuel (h : text.length < fuel) (h' : text.length < fuel') :
    readClassRest flags fuel outer cls text = readClassRest flags fuel' outer cls text := by
  induction fuel generalizing fuel' outer cls text with
  | zero => omega
  | succ fuel ih =>
    obtain ⟨fuel', rfl⟩ := Nat.exists_eq_add_of_le' (Nat.one_le_of_lt h')
    rw [readClassRest_succ, readClassRest_succ]
    refine Option.bind_congr fun (move, rest) hmove => ?_
    have hlength : rest.length < text.length := by
      refine Flags.length_lt_of_suffix_tail_skip (fun hnil => ?_)
        (leaves_readClassMove flags cls _ _ _ hmove)
      rw [hnil] at hmove
      cases hmove
    cases move with
    | opens inner => exact ih (by omega) (by omega)
    | closes =>
      refine Option.bind_congr fun value _ => ?_
      cases outer with
      | nil => rfl
      | cons parent outer => exact ih (by omega) (by omega)
    | goesOn cls => exact ih (by omega) (by omega)

end Rest

theorem leaves_readClass (flags : Flags) (text : List Char) : Leaves text (readClass flags text) := by
  have hstart := OpenClass.leaves_readStart flags text _ _ rfl
  exact ((leaves_readClassRest flags _ [] _ _).ofTail).trans hstart

theorem readClass_eq {fuel : Nat} (h : text.length < fuel) : readClass flags text
    = some (OpenClass.readStart flags text) >>= fun (cls, rest) => readClassRest flags fuel [] cls rest := by
  have hstart := (OpenClass.leaves_readStart flags text _ _ rfl).length_le
  exact readClassRest_fuel (Nat.lt_succ_of_le hstart) (Nat.lt_of_le_of_lt hstart h)

theorem parallel_readClass (flags : Flags) (text v : List Char) :
    Parallel Never v (readClass flags text) (readClass flags (text ++ ')' :: v)) := by
  rw [readClass_eq (Nat.lt_succ_of_le (List.prefix_append text (')' :: v)).length_le),
    readClass_eq (Nat.lt_succ_self (text ++ ')' :: v).length)]
  exact (OpenClass.parallel_readStart flags text v).bind
    (fun cls left => parallel_readClassRest flags _ [] cls left v)
    (fun cls rest => (leaves_readClassRest flags _ [] cls rest).ofTail)
    fun _ _ => False.elim

end NamedData.TextPattern
