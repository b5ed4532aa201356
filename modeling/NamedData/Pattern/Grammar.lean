import NamedData.Pattern.Expr
import NamedData.Pattern.Token

/-!
# The grammar of patterns

A pattern may start with a caret and end with a dollar sign, which tie it to the first and to the
last component. In between stand alternatives with bars between them; an alternative is a row of
atoms, each with any number of repetitions behind it; an atom is a component test, a set of
component tests in square brackets, with a caret in front if it is to be left out of, or a group in
parentheses.

The machine below reads the tokens one by one. It keeps the groups that are open and, for the
innermost, the alternatives and the atoms that came before, so that a repetition takes the last atom
and a bar takes the whole row. What a component test means is a parameter.
-/

namespace NamedData.Pattern

/-- What a single component has to pass, given tests of type `τ`. -/
inductive Selector (τ : Type) where
  /-- One test. -/
  | one (test : τ)
  /-- One of the tests, or none of them if the set is negated. -/
  | set (tests : List τ) (negated : Bool)
  deriving DecidableEq, Repr

/-- A pattern once it is read. -/
structure Parsed (τ : Type) where
  /-- The accepted stretch starts with the first component. -/
  anchoredStart : Bool
  /-- The accepted stretch ends with the last component. -/
  anchoredEnd : Bool
  expr : Expr (Selector τ)
  deriving DecidableEq, Repr

/-- Why a row of tokens is no pattern. -/
inductive GrammarFault where
  /-- The meaning of a component test is not defined. -/
  | badComponent (text : List Char)
  /-- The pattern ends where an atom must follow. -/
  | atomMissing
  /-- A token stands where an atom must follow. -/
  | notAnAtom (kind : TokenKind)
  /-- A group has no end. -/
  | openGroup
  /-- A token stands where a group must end. -/
  | groupEndMissing
  /-- A set has no end. -/
  | openSet
  /-- A set without tests. -/
  | emptySet
  /-- A token that is not allowed in a set. -/
  | notInSet (kind : TokenKind)
  /-- A token after the end of the pattern. -/
  | trailing (kind : TokenKind)
  /-- The tokens lack the one that ends them. -/
  | endMissing
  deriving DecidableEq, Repr

/-- The fault in words. For a component test without a meaning, what the engine that compiles it says
about it follows after a colon. -/
def GrammarFault.message : GrammarFault → String
  | badComponent text => "invalid component pattern '" ++ String.ofList text ++ "'"
  | atomMissing => "unexpected end of pattern, expected '<', '[' or '('"
  | notAnAtom kind => "unexpected token: " ++ kind.label ++ ", expected '<', '[' or '('"
  | openGroup => "unclosed '(', unexpected end of pattern"
  | groupEndMissing => "expected ')'"
  | openSet => "unclosed '[', unexpected end of pattern"
  | emptySet => "empty component set"
  | notInSet kind => "unexpected token in set: " ++ kind.label ++ ", expected '<' or ']'"
  | trailing kind => "unexpected token: " ++ kind.label
  | endMissing => "missing end of input"

/-- The error of a fault at a place. -/
def GrammarFault.at (span : Span) (fault : GrammarFault) : PatternError :=
  ⟨span, fault.message⟩

/-- Whether an atom starts with this token. -/
def TokenKind.startsAtom : TokenKind → Bool
  | component _ | openSet | openGroup => true
  | _ => false

/-- The bounds of a token that repeats what stands before it. -/
def TokenKind.bounds? : TokenKind → Option (Nat × Option Nat)
  | question => some (0, some 1)
  | plus => some (1, none)
  | star => some (0, none)
  | repetition min max => some (min, max)
  | _ => none

variable {τ : Type}

/-- What has been read of a group before its last atom. -/
structure Level (τ : Type) where
  /-- The alternatives before the last bar. -/
  alternatives : Option (Expr (Selector τ))
  /-- The atoms after the last bar. -/
  row : Option (Expr (Selector τ))

namespace Level

/-- Nothing has been read. -/
def start : Level τ := ⟨none, none⟩

/-- The row up to the last atom. -/
def rowWith (level : Level τ) (last : Expr (Selector τ)) : Expr (Selector τ) :=
  .after level.row last

/-- The alternatives up to the last atom. -/
def whole (level : Level τ) (last : Expr (Selector τ)) : Expr (Selector τ) :=
  .orElse level.alternatives (level.rowWith last)

/-- The level after the last atom when another atom follows. -/
def next (level : Level τ) (last : Expr (Selector τ)) : Level τ :=
  { level with row := some (level.rowWith last) }

/-- The level after the last atom when a bar follows. -/
def nextAlternative (level : Level τ) (last : Expr (Selector τ)) : Level τ :=
  ⟨some (level.whole last), none⟩

end Level

/-- What the machine expects. -/
inductive Expecting (τ : Type) where
  /-- An atom. -/
  | atom (level : Level τ)
  /-- Anything that may follow the atom `last`. -/
  | operator (level : Level τ) (last : Expr (Selector τ))
  /-- The first token of a set that was opened at `opening`. -/
  | setStart (level : Level τ) (opening : Span)
  /-- A further token of a set. -/
  | setRest (level : Level τ) (opening : Span) (negated : Bool) (tests : List τ)

/-- A group that is open, with what came before it. -/
structure OpenGroup (τ : Type) where
  opening : Span
  level : Level τ

/-- The state of the machine. -/
structure Reading (τ : Type) where
  /-- The open groups, the innermost first. -/
  groups : List (OpenGroup τ)
  expecting : Expecting τ

/-- What a token leads to. -/
inductive Outcome (τ : Type) where
  /-- The token is read. -/
  | more (reading : Reading τ)
  /-- The expression ended before the token. -/
  | done (expr : Expr (Selector τ))

/-- The meaning of the component test at a place. -/
def componentTest (compile : List Char → Option τ) (text : List Char) (span : Span) :
    Except PatternError τ :=
  match compile text with
  | some test => .ok test
  | none => .error ((GrammarFault.badComponent text).at span)

/-- Reads the first token of an atom. -/
def readAtom (compile : List Char → Option τ) (groups : List (OpenGroup τ)) (level : Level τ)
    (token : Token) : Except PatternError (Reading τ) := do
  match token.kind with
  | .component text =>
    let test ← componentTest compile text token.span
    return ⟨groups, .operator level (.test (.one test))⟩
  | .openSet => return ⟨groups, .setStart level token.span⟩
  | .openGroup => return ⟨⟨token.span, level⟩ :: groups, .atom .start⟩
  | .finish => throw (GrammarFault.atomMissing.at token.span)
  | kind => throw ((GrammarFault.notAnAtom kind).at token.span)

/-- Reads a token behind an atom. -/
def readOperator (compile : List Char → Option τ) (groups : List (OpenGroup τ)) (level : Level τ)
    (last : Expr (Selector τ)) (token : Token) : Except PatternError (Outcome τ) := do
  if let some (min, max) := token.kind.bounds? then
    return .more ⟨groups, .operator level (.rep last min max)⟩
  if token.kind = .bar then return .more ⟨groups, .atom (level.nextAlternative last)⟩
  if token.kind.startsAtom then
    return .more (← readAtom compile groups (level.next last) token)
  -- No other token goes on with the expression, so the innermost group ends here, if one is open.
  match groups, token.kind with
  | [], _ => return .done (level.whole last)
  | group :: outer, .closeGroup =>
    return .more ⟨outer, .operator group.level (level.whole last)⟩
  | group :: _, .finish => throw (GrammarFault.openGroup.at group.opening)
  | _ :: _, _ => throw (GrammarFault.groupEndMissing.at token.span)

/-- Reads a token of a set, which is not a caret at its start. -/
def readInSet (compile : List Char → Option τ) (groups : List (OpenGroup τ)) (level : Level τ)
    (opening : Span) (negated : Bool) (tests : List τ) (token : Token) :
    Except PatternError (Reading τ) := do
  match token.kind with
  | .component text =>
    let test ← componentTest compile text token.span
    return ⟨groups, .setRest level opening negated (tests ++ [test])⟩
  | .closeSet =>
    if tests.isEmpty then throw (GrammarFault.emptySet.at ⟨opening.start, token.span.stop⟩)
    return ⟨groups, .operator level (.test (.set tests negated))⟩
  | .finish => throw (GrammarFault.openSet.at opening)
  | kind => throw ((GrammarFault.notInSet kind).at token.span)

/-- Reads a token. -/
def readToken (compile : List Char → Option τ) (reading : Reading τ) (token : Token) :
    Except PatternError (Outcome τ) :=
  match reading.expecting with
  | .atom level => .more <$> readAtom compile reading.groups level token
  | .operator level last => readOperator compile reading.groups level last token
  | .setStart level opening =>
    if token.kind = .caret then .ok (.more ⟨reading.groups, .setRest level opening true []⟩)
    else .more <$> readInSet compile reading.groups level opening false [] token
  | .setRest level opening negated tests =>
    .more <$> readInSet compile reading.groups level opening negated tests token

/-- Reads tokens up to the end of the expression and returns those that are left. -/
def readExpr (compile : List Char → Option τ) :
    Reading τ → List Token → Except PatternError (Expr (Selector τ) × List Token)
  | _, [] => .error (GrammarFault.endMissing.at ⟨0, 0⟩)
  | reading, token :: rest =>
    match readToken compile reading token with
    | .ok (.more reading) => readExpr compile reading rest
    | .ok (.done expr) => .ok (expr, token :: rest)
    | .error e => .error e

/-- Whether the tokens start with one of this kind, and those that follow it. -/
def optionalToken (kind : TokenKind) : List Token → Bool × List Token
  | [] => (false, [])
  | token :: rest => if token.kind = kind then (true, rest) else (false, token :: rest)

/-- Reads the tokens of a pattern. -/
def parse (compile : List Char → Option τ) (tokens : List Token) :
    Except PatternError (Parsed τ) := do
  let (anchoredStart, tokens) := optionalToken .caret tokens
  let (expr, tokens) ←
    match tokens.head? with
    | some token =>
      if token.kind.startsAtom then readExpr compile ⟨[], .atom .start⟩ tokens
      else pure (.empty, tokens)
    | none => pure (.empty, tokens)
  let (anchoredEnd, tokens) := optionalToken .dollar tokens
  match tokens with
  | [⟨.finish, _⟩] => return ⟨anchoredStart, anchoredEnd, expr⟩
  | token :: _ => throw ((GrammarFault.trailing token.kind).at token.span)
  | [] => throw (GrammarFault.endMissing.at ⟨0, 0⟩)

end NamedData.Pattern
