import NamedData.Pattern.NamePattern
import NamedData.Proofs.TextPattern.Meaning
import NamedData.Proofs.TextPattern.Splice

/-!
# Tests of components

The text in angle brackets is put between `^(?:` and `)$`, and only the whole is read as a pattern. If the
parenthesis of `)$` is the one that closes the group, then the text is a pattern by itself and the test asks
that it matches all of a segment. But a text may also close the group and open another one, so that the whole
is a pattern though the text is none. These are all cases (`ComponentTest.accepts_iff_or_closes`).
-/

namespace NamedData.TextPattern

variable {text : List Char}

/-- What a text by itself denotes, however deep its notation and however large its automaton. -/
def Piece.ofText? (text : List Char) : Option Piece :=
  readRest (text.length + 1) 1 [] (.start .initial none) text

theorem read_eq_some {pattern : TextPattern} (h : TextPattern.read text = some pattern) :
    ∃ piece, Piece.ofText? text = some piece ∧ pattern = ⟨piece.term.expr⟩ := by
  obtain ⟨piece, hpiece, hlimits⟩ := Option.bind_eq_some_iff.1 h
  refine ⟨piece, hpiece, ?_⟩
  split at hlimits
  · exact (Option.some.inj hlimits).symm
  · cases hlimits

/-! ## Between the ends of a component -/

/-- The place at the start of a pattern. -/
def Place.first : Place := ⟨1, [], .start .initial none⟩

/-- The pattern around a group after a caret. -/
def Level.caret : Level := (start .initial none).push ⟨.boundary .textStart, 0⟩

theorem ofText?_eq_read {fuel : Nat} (h : text.length < fuel) :
    Piece.ofText? text = Place.first.read fuel text := by
  show Place.first.read (text.length + 1) text = _
  exact Place.read_fuel (Nat.lt_succ_self _) h

/-- The text between the ends of a component is read inside of a group. -/
theorem ofText?_anchored (text : List Char) : Piece.ofText? (ComponentTest.anchored text)
    = (Place.first.inside .caret).read (text.length + 5) (text ++ ')' :: ['$']) := by
  have hlength : (ComponentTest.anchored text).length < text.length + 5 + 1 + 1 := by
    simp [ComponentTest.anchored]
  have hcaret : Place.first.readMove (ComponentTest.anchored text)
      = some (.goesOn .caret, "(?:".toList ++ text ++ ")$".toList) :=
    rfl
  have hgroup : (⟨1, [], .caret⟩ : Place).readMove ("(?:".toList ++ text ++ ")$".toList)
      = some (.opens (.start .initial none), text ++ ")$".toList) :=
    rfl
  rw [ofText?_eq_read hlength, Place.read_of_readMove hcaret]
  exact Place.read_of_readMove hgroup

/-- With the dollar sign the pattern is complete. -/
theorem read_dollar {level : Level} {number fuel : Nat} {piece : Piece}
    (h : (⟨number, [], Level.caret.push level.close⟩ : Place).read fuel ['$'] = some piece) :
    piece.term = .row [.boundary .textStart, level.close.term, .boundary .textEnd] := by
  obtain ⟨fuel, -, ⟨⟨⟩, -⟩ | ⟨move, rest, next, hmove, hnext, h⟩⟩ := Place.read_eq_some h
  cases hmove
  cases hnext
  obtain ⟨_, -, ⟨-, -, rfl⟩ | ⟨_, _, _, ⟨⟩, -⟩⟩ := Place.read_eq_some h
  rfl

/-- Putting a group in parentheses does not change what it matches. -/
theorem matchesAll_close_iff (level : Level) :
    level.close.term.MatchesAll text ↔ level.whole.term.MatchesAll text := by
  unfold Level.close
  cases level.number with
  | none => rfl
  | some number => rfl

end NamedData.TextPattern

namespace NamedData.ComponentTest

open TextPattern

theorem compile_eq_some {re : List Char} {test : ComponentTest} (hre : re ≠ [])
    (h : compile re = some test) :
    ∃ piece, Piece.ofText? (anchored re) = some piece ∧ test = .segment ⟨piece.term.expr⟩ := by
  rw [compile, if_neg (by simpa using hre)] at h
  obtain ⟨pattern, hpattern, rfl⟩ := Option.map_eq_some_iff.1 h
  obtain ⟨piece, hpiece, rfl⟩ := read_eq_some hpattern
  exact ⟨piece, hpiece, rfl⟩

/-- A text that is accepted as a test either is a pattern by itself, and then a component passes the test if
and only if the pattern matches all of the segment that shows the component; or it is none, and starts with a
pattern and a parenthesis that closes the group which is put around the text. The limits of size and depth do
not count for what a text is by itself. -/
theorem accepts_iff_or_closes {re : List Char} {test : ComponentTest} (hre : re ≠ [])
    (h : compile re = some test) :
    (∃ piece, Piece.ofText? re = some piece
        ∧ ∀ c : Component, test.accepts c = true ↔ piece.term.MatchesAll c.segment)
      ∨ Piece.ofText? re = none
        ∧ ∃ before after, re = before ++ ')' :: after ∧ (Piece.ofText? before).isSome := by
  obtain ⟨piece, hpiece, rfl⟩ := compile_eq_some hre h
  rw [ofText?_anchored] at hpiece
  have halone : Piece.ofText? re = Place.first.read (re.length + 5) re := ofText?_eq_read (by omega)
  rcases Place.read_inside (by decide) hpiece with
    ⟨level, number, fuel, hlevel, hend⟩ | ⟨hnone, before, after, rfl, hbefore⟩
  · refine .inl ⟨level.whole, halone.trans hlevel, fun c => ?_⟩
    rw [← matchesAll_close_iff, ← occursIn_between_ends_iff, ← read_dollar hend]
    rfl
  · refine .inr ⟨halone.trans hnone, before, after, rfl, ?_⟩
    have hlength := (List.prefix_append before (')' :: after)).length_le
    rwa [ofText?_eq_read (show before.length < (before ++ ')' :: after).length + 5 by omega)]

theorem accepts_iff_or_closes_choice : ∃ test piece,
    compile "a|b+".toList = some test ∧ Piece.ofText? "a|b+".toList = some piece
      ∧ ∀ c : Component, test.accepts c = true ↔ piece.term.MatchesAll c.segment := by
  have hcompiles : (compile "a|b+".toList).isSome = true := by decide +kernel
  have hpattern : (Piece.ofText? "a|b+".toList).isSome = true := by decide +kernel
  obtain ⟨test, htest⟩ := Option.isSome_iff_exists.1 hcompiles
  rcases accepts_iff_or_closes (by decide) htest with ⟨piece, hpiece, haccepts⟩ | ⟨hnone, -⟩
  · exact ⟨test, piece, htest, hpiece, haccepts⟩
  · rw [hnone] at hpattern
    cases hpattern

/-- A segment that starts with one letter or ends in another. -/
def startOrEnd : Term :=
  .alt (.cat (.boundary .textStart) (.literal ['a'])) (.cat (.literal ['b']) (.boundary .textEnd))

/-- A text that is no pattern is accepted as a test, which then looks at the start of a segment only. -/
theorem compile_closing_text : Piece.ofText? "a)|(?:b".toList = none
    ∧ ∃ test, compile "a)|(?:b".toList = some test ∧ test.accepts (.generic [0x61, 0x78]) = true := by
  have hcompiles : (compile "a)|(?:b".toList).isSome = true := by decide +kernel
  have hterm : (Piece.ofText? (anchored "a)|(?:b".toList)).map Piece.term = some startOrEnd := by
    decide +kernel
  obtain ⟨test, htest⟩ := Option.isSome_iff_exists.1 hcompiles
  obtain ⟨piece, hpiece, rfl⟩ := compile_eq_some (by decide) htest
  rw [hpiece] at hterm
  obtain hterm : piece.term = startOrEnd := Option.some.inj hterm
  have hsegment : (Component.generic [0x61, 0x78]).segment = ['a', 'x'] := by decide +kernel
  refine ⟨rfl, _, htest, ?_⟩
  -- the first branch matches the first letter
  rw [accepts, hsegment, hterm, occursIn_iff]
  have hletter : TextTest.Passes ['a', 'x'] (.one (.single 'a')) 0 1 :=
    TextTest.passes_one_iff.2 ⟨by decide, rfl⟩
  have hstart : TextTest.Passes ['a', 'x'] (.boundary .textStart) 0 0 :=
    (TextTest.passes_textStart_iff (Nat.zero_le _)).2 ⟨rfl, rfl⟩
  exact ⟨0, Nat.zero_le _, 1, .inl ⟨0, hstart, 1, hletter, rfl⟩⟩

end NamedData.ComponentTest
