import NamedData.Name.Uri
import NamedData.Pattern.Grammar
import NamedData.TextPattern.Syntax

/-!
# Patterns over names

A name pattern says which stretches of a row of components it accepts. The test in angle brackets is
a text pattern that has to match the whole segment which shows the component; empty brackets accept
every component.
-/

namespace NamedData

open Pattern

/-- What the text in angle brackets asks of a component. -/
inductive ComponentTest where
  /-- Nothing. -/
  | any
  /-- That the pattern occurs in the segment of the component. -/
  | segment (pattern : TextPattern)

namespace ComponentTest

/-- The text pattern that holds the given one between the ends of the text. -/
def anchored (text : List Char) : List Char :=
  "^(?:".toList ++ text ++ ")$".toList

/-- The test that the text in angle brackets denotes, if there is one. -/
def compile (text : List Char) : Option ComponentTest :=
  if text.isEmpty then some .any else (TextPattern.read (anchored text)).map .segment

/-- Whether a component passes the test. -/
def accepts (test : ComponentTest) (c : Component) : Bool :=
  match test with
  | any => true
  | segment pattern => pattern.occursIn c.segment

end ComponentTest

namespace Pattern.Selector

variable {τ : Type}

/-- Whether an item passes, given what the tests accept. -/
def accepts {α : Type} (passes : τ → α → Bool) (selector : Selector τ) (item : α) : Bool :=
  match selector with
  | one test => passes test item
  | set tests negated => (tests.any fun test => passes test item) != negated

/-- The positions at which a stretch of a list that a selector accepts may end: it is one item. -/
def step {α : Type} (passes : τ → α → Bool) (items : List α) (selector : Selector τ) (p : Nat) :
    List Nat :=
  if items[p]?.any (selector.accepts passes) then [p + 1] else []

end Pattern.Selector

/-- Whether a stretch of a list is accepted by a pattern as its anchors demand, given what the tests
accept. -/
def Pattern.Parsed.accepts {τ α : Type} (passes : τ → α → Bool) (pattern : Parsed τ)
    (items : List α) : Bool :=
  pattern.expr.search (Selector.step passes items) items.length pattern.anchoredStart
    pattern.anchoredEnd

/-- A pattern over the components of a name. -/
structure NamePattern where
  /-- The text of the pattern. -/
  text : List Char
  meaning : Parsed ComponentTest

namespace NamePattern

/-- The pattern that a text denotes. -/
def read (text : List Char) : Except PatternError NamePattern := do
  let tokens ← tokenize text
  return ⟨text, ← parse ComponentTest.compile tokens⟩

/-- Whether a row of components is accepted. -/
def accepts (pattern : NamePattern) (components : List Component) : Bool :=
  pattern.meaning.accepts ComponentTest.accepts components

end NamePattern

end NamedData
