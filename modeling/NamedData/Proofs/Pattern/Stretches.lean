import NamedData.Pattern.Error

/-!
# Stretches of a text

A stretch is given by byte offsets, and cuts a text in three if both ends fall between characters
(`Span.Cuts`). The ends may be taken from different stretches, as long as they are in order
(`Span.Within.join`). An error that points at such a stretch can be shown (`report_eq`): the surroundings are
cut between characters as well, wherever in a character the number of bytes for them ends.
-/

namespace NamedData.Pattern

variable {text before marked after : List Char} {span : Span} {offset : Nat}

/-! ## Lengths in bytes -/

@[simp] theorem byteLength_nil : byteLength [] = 0 :=
  rfl

@[simp] theorem byteLength_append (a b : List Char) : byteLength (a ++ b) = byteLength a + byteLength b := by
  have hfrom (start : Nat) : b.foldl (fun length c => length + c.utf8Size) start = start + byteLength b := by
    unfold byteLength
    induction b generalizing start with
    | nil => rfl
    | cons c b ih =>
      rw [List.foldl_cons, List.foldl_cons, ih, ih (0 + c.utf8Size)]
      omega
  rw [byteLength, List.foldl_append, hfrom]
  rfl

@[simp] theorem byteLength_cons (c : Char) (rest : List Char) :
    byteLength (c :: rest) = c.utf8Size + byteLength rest := by
  rw [← List.singleton_append, byteLength_append]
  simp [byteLength]

theorem eq_nil_of_byteLength (h : byteLength text = 0) : text = [] := by
  cases text with
  | nil => rfl
  | cons c rest =>
    have hpos := c.utf8Size_pos
    rw [byteLength_cons] at h
    omega

/-- Of two starts of a text, the one with fewer bytes is a start of the other. -/
theorem prefix_of_byteLength_le {a b : List Char} (ha : a <+: text) (hb : b <+: text)
    (hle : byteLength a ≤ byteLength b) : a <+: b := by
  rcases List.prefix_or_prefix_of_prefix ha hb with hab | ⟨more, rfl⟩
  · exact hab
  · rw [byteLength_append] at hle
    obtain rfl : more = [] := eq_nil_of_byteLength (by omega)
    exact ⟨[], by simp⟩

/-! ## Stretches that cut a text -/

/-- A stretch cuts a text that starts at an offset in three: what stands before it, in it and after it. -/
structure Span.CutsFrom (offset : Nat) (span : Span) (text before marked after : List Char) : Prop where
  text_eq : text = before ++ marked ++ after
  start_eq : span.start = offset + byteLength before
  stop_eq : span.stop = offset + byteLength (before ++ marked)

/-- A stretch cuts a text in three. -/
abbrev Span.Cuts (span : Span) (text before marked after : List Char) : Prop :=
  span.CutsFrom 0 text before marked after

/-- Both ends of a stretch fall between characters of the text, and are in order. -/
def Span.Within (text : List Char) (span : Span) : Prop :=
  ∃ before marked after, span.Cuts text before marked after

namespace Span

/-- A stretch cuts a longer text as well, with what is put in front before it. -/
theorem CutsFrom.append_left {lead : List Char}
    (h : span.CutsFrom (offset + byteLength lead) text before marked after) :
    span.CutsFrom offset (lead ++ text) (lead ++ before) marked after := by
  obtain ⟨rfl, hstart, hstop⟩ := h
  refine ⟨by simp, by simp [hstart]; omega, by simp [hstop]; omega⟩

theorem CutsFrom.stop_le (h : span.CutsFrom offset text before marked after) :
    span.stop ≤ offset + byteLength text := by
  rw [h.stop_eq, h.text_eq, byteLength_append (before ++ marked)]
  omega

theorem CutsFrom.start_le_stop (h : span.CutsFrom offset text before marked after) :
    span.start ≤ span.stop := by
  rw [h.start_eq, h.stop_eq, byteLength_append]
  omega

/-- The empty stretch at the start of a text. -/
theorem within_zero (text : List Char) : Within text ⟨0, 0⟩ :=
  ⟨[], [], text, rfl, rfl, rfl⟩

/-- From the start of a stretch to the end of one that ends later. -/
theorem Within.join {other : Span} (h : span.Within text) (hother : other.Within text)
    (hle : span.start ≤ other.stop) : Within text ⟨span.start, other.stop⟩ := by
  obtain ⟨before, marked, after, hcuts⟩ := h
  obtain ⟨before', marked', after', hcuts'⟩ := hother
  have hstart : before <+: text := ⟨marked ++ after, by simp [hcuts.text_eq]⟩
  have hstop : before' ++ marked' <+: text := ⟨after', hcuts'.text_eq.symm⟩
  obtain ⟨between, hbetween⟩ := prefix_of_byteLength_le hstart hstop (by
    have hstartEq := hcuts.start_eq
    have hstopEq := hcuts'.stop_eq
    omega)
  exact ⟨before, between, after', by rw [hbetween, ← hcuts'.text_eq], hcuts.start_eq,
    by rw [hbetween]; exact hcuts'.stop_eq⟩

end Span

/-! ## Showing a stretch -/

theorem splitAtByte_append (before after : List Char) :
    splitAtByte (byteLength before) (before ++ after) = some (before, after) := by
  induction before with
  | nil => rw [byteLength_nil, splitAtByte, List.nil_append]
  | cons c before ih =>
    have hpos := c.utf8Size_pos
    rw [byteLength_cons]
    obtain ⟨size, hsize⟩ := Nat.exists_eq_add_of_lt hpos
    rw [Nat.zero_add] at hsize
    have hnext : c.utf8Size + byteLength before = (size + byteLength before) + 1 := by omega
    have hleft : size + byteLength before + 1 - c.utf8Size = byteLength before := by omega
    rw [hnext, List.cons_append, splitAtByte, if_neg (by omega), hleft, ih]
    rfl

theorem cover_prefix (bytes : Nat) (text : List Char) : cover bytes text <+: text := by
  induction text generalizing bytes with
  | nil => cases bytes <;> exact List.nil_prefix
  | cons c rest ih =>
    cases bytes with
    | zero => exact List.nil_prefix
    | succ bytes => exact List.cons_prefix_cons.2 ⟨rfl, ih _⟩

/-- An error that points at a stretch of the text is shown with the end of what stands before the stretch and
the start of what stands after it, and below it a caret for each character of the stretch, one at least. -/
theorem report_eq {e : PatternError} (h : e.span.Cuts text before marked after) :
    ∃ lead trail, lead <:+ before ∧ trail <+: after
      ∧ e.report text = some (lead ++ marked ++ trail ++ '\n'
          :: (List.replicate lead.length ' ' ++ List.replicate (max marked.length 1) '^') ++ '\n'
          :: e.message.toList) := by
  refine ⟨(cover PatternError.context before.reverse).reverse, cover PatternError.context after, ?_,
    cover_prefix _ _, ?_⟩
  · rw [← List.reverse_prefix, List.reverse_reverse]
    exact cover_prefix _ _
  · have hlength := h.stop_le
    have horder := h.start_le_stop
    have hstart : e.span.start = byteLength before := h.start_eq.trans (Nat.zero_add _)
    have hstop : e.span.stop - e.span.start = byteLength marked := by
      rw [h.start_eq, h.stop_eq, byteLength_append]
      omega
    have hbefore : splitAtByte e.span.start text = some (before, marked ++ after) := by
      rw [hstart, h.text_eq, List.append_assoc]
      exact splitAtByte_append _ _
    unfold PatternError.report
    dsimp only
    rw [Nat.min_eq_left (by omega), Nat.min_eq_left (by omega), if_neg (by omega), hbefore, hstop]
    simp only [bind, Option.bind, pure, splitAtByte_append]

end NamedData.Pattern
