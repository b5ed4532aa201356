import NamedData.Proofs.Pattern.Language

/-!
# The phrases of a pattern

The grammar of patterns apart from any reader: an atom is a component test, a set of them or a group; it
may be repeated; repeated atoms stand in a row; and rows are alternatives. A phrase is a derivation in
this grammar, with the tokens that it is written as (`Phrase.kinds`) and the stretches that it stands for
(`Phrase.language`). A sentence adds the anchors and the end. What a component test means is open: a text
may have a test, and a test passes or not.
-/

namespace NamedData.Pattern

/-! ## Phrases -/

/-- The kinds of phrases, from the inside out. -/
inductive Rank where
  | atom
  | repeated
  | row
  | alternatives

/-- What may stand behind an atom to repeat it. -/
inductive Quantifier where
  | question
  | plus
  | star
  | between (min : Nat) (max : Option Nat)

namespace Quantifier

/-- The token of a quantifier. -/
def kind : Quantifier → TokenKind
  | question => .question
  | plus => .plus
  | star => .star
  | between min max => .repetition min max

/-- How many times what stands before the quantifier may appear. -/
def Allows : Quantifier → Nat → Prop
  | question, k => k = 0 ∨ k = 1
  | plus, k => 1 ≤ k
  | star, _ => True
  | between min max, k => min ≤ k ∧ ∀ most ∈ max, k ≤ most

end Quantifier

/-- A phrase of a pattern. -/
inductive Phrase : Rank → Type where
  /-- A component test with the text between its brackets. -/
  | component (text : List Char) : Phrase .atom
  /-- A set of at least one component test, with a caret if it is negated. -/
  | set (negated : Bool) (first : List Char) (others : List (List Char)) : Phrase .atom
  /-- Alternatives in parentheses. -/
  | group (inner : Phrase .alternatives) : Phrase .atom
  /-- An atom that nothing repeats. -/
  | bare (atom : Phrase .atom) : Phrase .repeated
  /-- An atom that is already repeated, or not, and another quantifier. -/
  | quantified (inner : Phrase .repeated) (quantifier : Quantifier) : Phrase .repeated
  /-- A row of one. -/
  | single (item : Phrase .repeated) : Phrase .row
  /-- A row with one more behind it. -/
  | followed (row : Phrase .row) (item : Phrase .repeated) : Phrase .row
  /-- A row without alternatives. -/
  | only (row : Phrase .row) : Phrase .alternatives
  /-- Alternatives with one more behind a bar. -/
  | either (left : Phrase .alternatives) (right : Phrase .row) : Phrase .alternatives

variable {τ α : Type} (compile : List Char → Option τ) (passes : τ → α → Bool)

/-- An item passes the test of a text. -/
def PassesText (text : List Char) (item : α) : Prop :=
  ∃ test, compile text = some test ∧ passes test item = true

namespace Phrase

/-- The tokens of a phrase. -/
def kinds {r : Rank} : Phrase r → List TokenKind
  | component text => [.component text]
  | set negated first others =>
    .openSet :: ((if negated then [.caret] else []) ++ (first :: others).map .component ++ [.closeSet])
  | group inner => .openGroup :: (inner.kinds ++ [.closeGroup])
  | bare atom => atom.kinds
  | quantified inner quantifier => inner.kinds ++ [quantifier.kind]
  | single item => item.kinds
  | followed row item => row.kinds ++ item.kinds
  | only row => row.kinds
  | either left right => left.kinds ++ .bar :: right.kinds

/-- The stretches that a phrase stands for. -/
def language {r : Rank} : Phrase r → Language α
  | component text => {w | ∃ item, w = [item] ∧ PassesText compile passes text item}
  | set false first others =>
    {w | ∃ item, w = [item] ∧ ∃ text ∈ first :: others, PassesText compile passes text item}
  | set true first others =>
    {w | ∃ item, w = [item] ∧ ∀ text ∈ first :: others, ¬ PassesText compile passes text item}
  | group inner => inner.language
  | bare atom => atom.language
  | quantified inner quantifier => {w | ∃ k, quantifier.Allows k ∧ w ∈ inner.language ^ k}
  | single item => item.language
  | followed row item => row.language * item.language
  | only row => row.language
  | either left right => left.language + right.language

theorem kinds_ne_nil {r : Rank} (phrase : Phrase r) :
    ∃ kind rest, phrase.kinds = kind :: rest ∧ kind.startsAtom = true := by
  induction phrase with
  | component | set | group => exact ⟨_, _, rfl, rfl⟩
  | bare _ ih | single _ ih | only _ ih => exact ih
  | quantified _ _ ih | followed _ _ ih | either _ _ ih =>
    obtain ⟨kind, rest, hkinds, hstarts⟩ := ih
    rw [kinds, hkinds]
    exact ⟨kind, _, rfl, hstarts⟩

end Phrase

/-! ## Sentences -/

/-- A whole pattern. -/
structure Sentence where
  /-- A caret stands in front. -/
  anchoredStart : Bool
  body : Option (Phrase .alternatives)
  /-- A dollar sign stands behind. -/
  anchoredEnd : Bool

namespace Sentence

/-- The tokens of a pattern, up to the one that ends it. -/
def kinds (s : Sentence) : List TokenKind :=
  (if s.anchoredStart then [.caret] else []) ++ (s.body.elim [] Phrase.kinds
    ++ ((if s.anchoredEnd then [.dollar] else []) ++ [.finish]))

/-- The stretches that the pattern between the anchors stands for; a pattern without alternatives
stands for the empty one. -/
def language (s : Sentence) : Language α :=
  s.body.elim 1 (Phrase.language compile passes)

end Sentence

end NamedData.Pattern
