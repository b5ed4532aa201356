import NamedData.Text.Blank
import NamedData.Text.Segments

/-!
# Cutting and trimming texts

A text is cut where its separator stands: pieces without the separator are found again as they were put
together. Trimming takes off blanks at both ends, and only these if the text between them starts and ends
with something else.
-/

namespace NamedData.Text

variable {separator : Char} {start text rest : List Char}

/-! ## The first occurrence -/

theorem splitOnce_append (h : separator ∉ start) :
    splitOnce separator (start ++ separator :: rest) = some (start, rest) := by
  induction start with
  | nil => simp [splitOnce]
  | cons c start ih =>
    obtain ⟨hc, hstart⟩ : ¬ separator = c ∧ separator ∉ start := by simpa using h
    simp [splitOnce, Ne.symm hc, ih hstart]

theorem splitOnce_eq_none (h : separator ∉ text) : splitOnce separator text = none := by
  induction text with
  | nil => rfl
  | cons c text ih =>
    obtain ⟨hc, htext⟩ : ¬ separator = c ∧ separator ∉ text := by simpa using h
    simp [splitOnce, Ne.symm hc, ih htext]

/-! ## All occurrences -/

theorem segments_of_not_mem (h : separator ∉ text) : segments separator text = [text] := by
  induction text with
  | nil => rfl
  | cons c text ih =>
    obtain ⟨hc, htext⟩ : ¬ separator = c ∧ separator ∉ text := by simpa using h
    simp [segments, Ne.symm hc, ih htext]

theorem segments_append (h : separator ∉ start) :
    segments separator (start ++ separator :: rest) = start :: segments separator rest := by
  induction start with
  | nil => simp [segments]
  | cons c start ih =>
    obtain ⟨hc, hstart⟩ : ¬ separator = c ∧ separator ∉ start := by simpa using h
    simp [segments, Ne.symm hc, ih hstart]

/-- Pieces without the separator are the segments of what they make up. -/
theorem segments_flatMap {first : List Char} {others : List (List Char)} (hfirst : separator ∉ first)
    (hothers : ∀ piece ∈ others, separator ∉ piece) :
    segments separator (first ++ others.flatMap (separator :: ·)) = first :: others := by
  induction others generalizing first with
  | nil => simpa using segments_of_not_mem hfirst
  | cons second others ih =>
    have htail := ih (hothers second List.mem_cons_self) fun piece hpiece =>
      hothers piece (List.mem_cons_of_mem _ hpiece)
    rw [List.flatMap_cons, List.cons_append, segments_append hfirst, htail]

theorem segments_intercalate {pieces : List (List Char)} (hne : pieces ≠ [])
    (hpieces : ∀ piece ∈ pieces, separator ∉ piece) :
    segments separator ([separator].intercalate pieces) = pieces := by
  induction pieces with
  | nil => exact absurd rfl hne
  | cons first others ih =>
    obtain ⟨hfirst, hothers⟩ := List.forall_mem_cons.1 hpieces
    cases others with
    | nil => simpa using segments_of_not_mem hfirst
    | cons second others =>
      rw [List.intercalate_cons_cons, List.append_assoc, List.singleton_append, segments_append hfirst,
        ih (List.cons_ne_nil _ _) hothers]

/-! ## Starts -/

theorem stripStart_append (start rest : List Char) : stripStart start (start ++ rest) = some rest := by
  simp [stripStart]

/-- A text with another first character does not start so. -/
theorem stripStart_of_head {c d : Char} (h : c ≠ d) :
    stripStart (c :: start) (d :: text) = none := by
  simp [stripStart, h]

/-- A text does not start with a character that is not in it. -/
theorem stripStart_of_not_mem {c : Char} (hstart : c ∈ start) (htext : c ∉ text) :
    stripStart start text = none := by
  refine if_neg fun h => htext ?_
  exact (List.isPrefixOf_iff_prefix.1 h).subset hstart

/-! ## Blanks at the ends -/

theorem trimStart_of_blank (hstart : ∀ c ∈ start, isBlank c = true) :
    trimStart (start ++ text) = trimStart text :=
  List.dropWhile_append_of_pos hstart

theorem trimEnd_of_blank (hrest : ∀ c ∈ rest, isBlank c = true) :
    trimEnd (text ++ rest) = trimEnd text := by
  rw [trimEnd, List.reverse_append, List.dropWhile_append_of_pos (by simpa using hrest), trimEnd]

theorem mem_of_mem_trimStart {c : Char} (h : c ∈ trimStart text) : c ∈ text :=
  (List.dropWhile_suffix isBlank).subset h

/-- Trimming stops at a character that is not blank. -/
theorem trimStart_append_cons {mark : Char} (h : isBlank mark = false) :
    trimStart (text ++ mark :: rest) = trimStart text ++ mark :: rest := by
  induction text with
  | nil => exact List.dropWhile_cons_of_neg (by simp [h])
  | cons c text ih =>
    unfold trimStart at ih ⊢
    by_cases hc : isBlank c = true
    · simp [hc, ih]
    · simp [hc]

theorem trimEnd_of_last (h : ∀ c, text.getLast? = some c → isBlank c = false) : trimEnd text = text := by
  unfold trimEnd
  cases hreverse : text.reverse with
  | nil => simp [List.reverse_eq_nil_iff.1 hreverse]
  | cons c others =>
    have hc : isBlank c = false := h c (by simp [List.getLast?_eq_head?_reverse, hreverse])
    rw [List.dropWhile_cons_of_neg (by simp [hc]), ← hreverse, List.reverse_reverse]

/-- Blanks around a text are trimmed, and so are those at the start of what stands before a mark, but not
what follows the mark. -/
theorem trim_of_mark {mark : Char} {body : List Char} (hmark : isBlank mark = false)
    (hstart : ∀ c ∈ start, isBlank c = true) (hrest : ∀ c ∈ rest, isBlank c = true)
    (hlast : ∀ c, (text ++ mark :: body).getLast? = some c → isBlank c = false) :
    trim (start ++ ((text ++ mark :: body) ++ rest)) = trimStart text ++ mark :: body := by
  have hstop : trimStart (text ++ mark :: body ++ rest) = trimStart text ++ mark :: body ++ rest := by
    simp [trimStart_append_cons hmark]
  have hlast' : ∀ c, (trimStart text ++ mark :: body).getLast? = some c → isBlank c = false := by
    intro c hc
    exact hlast c (by simpa [List.getLast?_append] using hc)
  rw [trim, trimStart_of_blank hstart, hstop, trimEnd_of_blank hrest, trimEnd_of_last hlast']

end NamedData.Text
