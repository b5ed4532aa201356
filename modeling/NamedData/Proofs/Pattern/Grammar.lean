import NamedData.Proofs.Pattern.Reader

/-!
# The reader of patterns takes the sentences of the grammar

The tokens of a phrase lead from wherever an atom may stand to an operator behind it, with an expression
of the phrase's language in its place (`Phrase.isRead`): a quantifier finds the last atom there, and a bar the
whole row. Between its anchors a pattern is an expression or nothing, so a sentence is read as what it
stands for (`exists_parse`), and nothing else is read (`exists_sentence_of_parse`).
-/

namespace NamedData.Pattern

variable {τ α : Type} {compile : List Char → Option τ} {passes : τ → α → Bool}

/-! ## Reading on -/

/-- Reading the tokens leads from one state to another, whatever follows them. -/
def Leads (compile : List Char → Option τ) (reading : Reading τ) (tokens : List Token)
    (next : Reading τ) : Prop :=
  ∀ rest, readExpr compile reading (tokens ++ rest) = readExpr compile next rest

namespace Leads

variable {reading next last : Reading τ} {tokens others : List Token} {token : Token}

theorem nil (reading : Reading τ) : Leads compile reading [] reading :=
  fun _ => rfl

theorem append (h : Leads compile reading tokens next) (hothers : Leads compile next others last) :
    Leads compile reading (tokens ++ others) last := by
  intro rest
  rw [List.append_assoc, h, hothers]

theorem cons (h : readToken compile reading token = .ok (.more next))
    (hothers : Leads compile next others last) : Leads compile reading (token :: others) last := by
  intro rest
  rw [List.cons_append, readExpr, h]
  exact hothers rest

theorem single (h : readToken compile reading token = .ok (.more next)) :
    Leads compile reading [token] next :=
  .cons h (.nil next)

end Leads

/-- The next token has to start an atom of a group at this level. -/
def AwaitsAtom (compile : List Char → Option τ) (reading : Reading τ) (groups : List (OpenGroup τ))
    (level : Level τ) : Prop :=
  ∀ token : Token, token.kind.startsAtom = true →
    readToken compile reading token = .more <$> readAtom compile groups level token

section Awaits

variable {groups : List (OpenGroup τ)} {level : Level τ} {last : Expr (Selector τ)}

theorem AwaitsAtom.atom : AwaitsAtom compile ⟨groups, .atom level⟩ groups level :=
  fun _ _ => rfl

theorem AwaitsAtom.operator :
    AwaitsAtom compile ⟨groups, .operator level last⟩ groups (level.next last) :=
  fun _ h => readOperator_of_startsAtom h

end Awaits

/-! ## Expressions of phrases -/

/-- The bounds of all repetitions among the tokens are in order. -/
def BoundsInOrder (kinds : List TokenKind) : Prop :=
  ∀ min most, .repetition min (some most) ∈ kinds → min ≤ most

theorem BoundsInOrder.append_iff {ks ls : List TokenKind} :
    BoundsInOrder (ks ++ ls) ↔ BoundsInOrder ks ∧ BoundsInOrder ls := by
  simp only [BoundsInOrder, List.mem_append, or_imp, forall_and]

/-- An expression stands for what a phrase does, and its bounds are in order if those of the phrase are. -/
structure Means (compile : List Char → Option τ) (passes : τ → α → Bool) {r : Rank} (phrase : Phrase r)
    (e : Expr (Selector τ)) : Prop where
  language : e.language (Selector.language passes) = phrase.language compile passes
  inOrder : BoundsInOrder phrase.kinds → e.InOrder

/-! ## Atoms and quantifiers -/

section Atoms

variable {groups : List (OpenGroup τ)} {level : Level τ} {last : Expr (Selector τ)} {reading : Reading τ}
  {token : Token}

theorem AwaitsAtom.component {text : List Char} {test : τ} (h : AwaitsAtom compile reading groups level)
    (hkind : token.kind = .component text) (htest : compile text = some test) :
    readToken compile reading token = .ok (.more ⟨groups, .operator level (.test (.one test))⟩) := by
  rw [h token (by rw [hkind]; rfl)]
  simp only [readAtom, hkind, componentTest_eq_ok.2 htest]
  rfl

theorem AwaitsAtom.openSet (h : AwaitsAtom compile reading groups level) (hkind : token.kind = .openSet) :
    readToken compile reading token = .ok (.more ⟨groups, .setStart level token.span⟩) := by
  rw [h token (by rw [hkind]; rfl)]
  simp only [readAtom, hkind]
  rfl

theorem AwaitsAtom.openGroup (h : AwaitsAtom compile reading groups level) (hkind : token.kind = .openGroup) :
    readToken compile reading token
      = .ok (.more ⟨⟨token.span, level⟩ :: groups, .atom .start⟩) := by
  rw [h token (by rw [hkind]; rfl)]
  simp only [readAtom, hkind]
  rfl

/-- Tests of a set are taken one by one. -/
theorem leads_setRest {opening : Span} {negated : Bool} {texts : List (List Char)} {tokens : List Token}
    (hkinds : tokens.map (·.kind) = texts.map .component) (hcompiles : Compiles compile (texts.map .component))
    (tests : List τ) : Leads compile ⟨groups, .setRest level opening negated tests⟩ tokens
      ⟨groups, .setRest level opening negated (tests ++ texts.filterMap compile)⟩ := by
  induction texts generalizing tokens tests with
  | nil =>
    obtain rfl := List.map_eq_nil_iff.1 hkinds
    rw [List.filterMap_nil, List.append_nil]
    exact .nil _
  | cons text texts ih =>
    obtain ⟨token, tokens, rfl, hkind, hkinds⟩ := List.map_eq_cons_iff.1 hkinds
    rw [List.map_cons, Compiles.cons_iff] at hcompiles
    obtain ⟨test, htest⟩ := Option.isSome_iff_exists.1 (hcompiles.1 text rfl)
    have hstep : readToken compile ⟨groups, .setRest level opening negated tests⟩ token
        = .ok (.more ⟨groups, .setRest level opening negated (tests ++ [test])⟩) := by
      simp only [readToken, readInSet, hkind, componentTest_eq_ok.2 htest]
      rfl
    have hothers := ih hkinds hcompiles.2 (tests ++ [test])
    rw [List.append_assoc] at hothers
    rw [List.filterMap_cons_some htest]
    exact .cons hstep hothers

theorem readToken_closeSet {opening : Span} {negated : Bool} {tests : List τ}
    (hkind : token.kind = .closeSet) (hne : tests ≠ []) :
    readToken compile ⟨groups, .setRest level opening negated tests⟩ token
      = .ok (.more ⟨groups, .operator level (.test (.set tests negated))⟩) := by
  cases tests with
  | nil => exact absurd rfl hne
  | cons test tests =>
    simp only [readToken, readInSet, hkind]
    rfl

/-- A set may start with a caret; if it does not, it is read as if it had been negated before. -/
theorem leads_setStart {opening : Span} {tokens : List Token} {next : Reading τ} (negated : Bool)
    (first : List Char) (rest : List TokenKind)
    (hkinds : tokens.map (·.kind) = (if negated then [.caret] else []) ++ .component first :: rest)
    (h : ∀ others, others.map (·.kind) = .component first :: rest →
      Leads compile ⟨groups, .setRest level opening negated []⟩ others next) :
    Leads compile ⟨groups, .setStart level opening⟩ tokens next := by
  cases negated with
  | true =>
    obtain ⟨caret, others, rfl, hcaret, hothers⟩ := List.map_eq_cons_iff.1 hkinds
    refine .cons ?_ (h others hothers)
    simp only [readToken, if_pos hcaret]
  | false =>
    have hrest := h tokens hkinds
    obtain ⟨token, others, rfl, hkind, -⟩ := List.map_eq_cons_iff.1 hkinds
    intro more
    -- the first token is no caret, so it is read as any other token of the set
    have hsame : readToken compile ⟨groups, .setStart level opening⟩ token
        = readToken compile ⟨groups, .setRest level opening false []⟩ token := by
      simp only [readToken, hkind, reduceCtorEq, if_false]
    rw [← hrest more, List.cons_append, readExpr, readExpr, hsame]

theorem readToken_closeGroup {group : OpenGroup τ} (hkind : token.kind = .closeGroup) :
    readToken compile ⟨group :: groups, .operator level last⟩ token
      = .ok (.more ⟨groups, .operator group.level (level.whole last)⟩) := by
  obtain ⟨kind, span⟩ := token
  cases hkind
  rfl

theorem readToken_bar (hkind : token.kind = .bar) :
    readToken compile ⟨groups, .operator level last⟩ token
      = .ok (.more ⟨groups, .atom (level.nextAlternative last)⟩) := by
  obtain ⟨kind, span⟩ := token
  cases hkind
  rfl

variable (compile groups level last) in
/-- A quantifier makes a repetition of the last atom that appears as often as the quantifier allows. -/
theorem exists_readToken_quantifier {quantifier : Quantifier} (hkind : token.kind = quantifier.kind) :
    ∃ min max, readToken compile ⟨groups, .operator level last⟩ token
        = .ok (.more ⟨groups, .operator level (.rep last min max)⟩)
      ∧ (∀ k, quantifier.Allows k ↔ min ≤ k ∧ ∀ most ∈ max, k ≤ most)
      ∧ (BoundsInOrder [quantifier.kind] → ∀ most ∈ max, min ≤ most) := by
  obtain ⟨kind, span⟩ := token
  cases hkind
  cases quantifier with
  | question =>
    refine ⟨0, some 1, rfl, fun k => ?_, fun _ => by simp⟩
    simp only [Quantifier.Allows, Option.mem_def, Option.some.injEq, forall_eq']
    omega
  | plus => exact ⟨1, none, rfl, fun k => by simp [Quantifier.Allows], fun _ => nofun⟩
  | star => exact ⟨0, none, rfl, fun k => by simp [Quantifier.Allows], fun _ => nofun⟩
  | between min max =>
    refine ⟨min, max, rfl, fun k => Iff.rfl, fun horder most hmost => ?_⟩
    rw [Option.mem_def] at hmost
    exact horder min most (by rw [hmost]; exact List.mem_singleton_self _)

end Atoms

namespace Phrase

/-- The tokens of a phrase are read as an expression that means the phrase: that of an atom takes the place
of the last atom, that of a row takes all that is behind the last bar, and that of alternatives is all of
the group. -/
def IsRead (compile : List Char → Option τ) (passes : τ → α → Bool) :
    {r : Rank} → Phrase r → List Token → Prop
  | .atom, phrase, tokens | .repeated, phrase, tokens =>
    ∀ reading groups level, AwaitsAtom compile reading groups level →
      ∃ last, Leads compile reading tokens ⟨groups, .operator level last⟩ ∧ Means compile passes phrase last
  | .row, phrase, tokens =>
    ∀ groups alternatives, ∃ row last,
      Leads compile ⟨groups, .atom ⟨alternatives, none⟩⟩ tokens ⟨groups, .operator ⟨alternatives, row⟩ last⟩
        ∧ Means compile passes phrase (.after row last)
  | .alternatives, phrase, tokens =>
    ∀ groups, ∃ level last,
      Leads compile ⟨groups, .atom .start⟩ tokens ⟨groups, .operator level last⟩
        ∧ Means compile passes phrase (level.whole last)

variable {tokens : List Token}

/-! ### Component tests and sets -/

theorem isRead_component (text : List Char) (hkinds : tokens.map (·.kind) = (component text).kinds)
    (hcompiles : Compiles compile (component text).kinds) : (component text).IsRead compile passes tokens := by
  intro reading groups level hawaits
  obtain ⟨token, rfl, hkind⟩ := List.map_eq_singleton_iff.1 hkinds
  obtain ⟨test, htest⟩ := Option.isSome_iff_exists.1 (hcompiles text (List.mem_singleton_self _))
  refine ⟨_, .single (hawaits.component hkind htest), Language.ext fun w => ?_, fun _ => trivial⟩
  refine exists_congr fun item => and_congr_right fun _ => ?_
  simp [PassesText, htest]

theorem means_set (negated : Bool) (first : List Char) (others : List (List Char)) :
    Means compile passes (.set negated first others)
      (.test (.set ((first :: others).filterMap compile) negated)) := by
  refine ⟨Language.ext fun w => ?_, fun _ => trivial⟩
  cases negated with
  | false =>
    refine exists_congr fun item => and_congr_right fun _ => ?_
    simp only [PassesText, List.mem_filterMap]
    constructor
    · rintro ⟨test, ⟨text, htext, htest⟩, hpasses⟩
      exact ⟨text, htext, test, htest, hpasses⟩
    · rintro ⟨text, htext, test, htest, hpasses⟩
      exact ⟨test, ⟨text, htext, htest⟩, hpasses⟩
  | true =>
    refine exists_congr fun item => and_congr_right fun _ => ?_
    simp only [PassesText, List.mem_filterMap, not_exists, not_and, Bool.not_eq_true]
    constructor
    · intro hall text htext test htest
      exact hall test ⟨text, htext, htest⟩
    · rintro hall test ⟨text, htext, htest⟩
      exact hall text htext test htest

theorem isRead_set (negated : Bool) (first : List Char) (others : List (List Char))
    (hkinds : tokens.map (·.kind) = (set negated first others).kinds)
    (hcompiles : Compiles compile (set negated first others).kinds) :
    (set negated first others).IsRead compile passes tokens := by
  intro reading groups level hawaits
  rw [kinds, Compiles.cons_iff, Compiles.append_iff, Compiles.append_iff] at hcompiles
  obtain ⟨-, ⟨-, htexts⟩, -⟩ := hcompiles
  obtain ⟨opening, inner, rfl, hopening, hinner⟩ := List.map_eq_cons_iff.1 hkinds
  refine ⟨_, ?_, means_set negated first others⟩
  refine .cons (hawaits.openSet hopening) (leads_setStart negated first (others.map .component ++ [.closeSet])
    (by simpa using hinner) fun more hmore => ?_)
  rw [← List.cons_append, ← List.map_cons (f := TokenKind.component)] at hmore
  obtain ⟨tests, closing, rfl, htests, hclosing⟩ := List.map_eq_append_iff.1 hmore
  obtain ⟨close, rfl, hclose⟩ := List.map_eq_singleton_iff.1 hclosing
  obtain ⟨test, htest⟩ := Option.isSome_iff_exists.1 (htexts first (by simp))
  refine (leads_setRest htests htexts []).append (.single ?_)
  refine readToken_closeSet hclose ?_
  rw [List.nil_append, List.filterMap_cons_some htest]
  exact List.cons_ne_nil _ _

/-! ### One lemma for each way to build a phrase -/

variable {others : List Token} {token : Token}

theorem IsRead.group {inner : Phrase .alternatives} {closing : Token}
    (h : inner.IsRead compile passes tokens) (hopening : token.kind = .openGroup)
    (hclosing : closing.kind = .closeGroup) :
    (Phrase.group inner).IsRead compile passes (token :: (tokens ++ [closing])) := by
  intro reading groups level hawaits
  obtain ⟨innerLevel, last, hleads, hmeans⟩ := h (⟨token.span, level⟩ :: groups)
  refine ⟨innerLevel.whole last, .cons (hawaits.openGroup hopening)
    (hleads.append (.single (readToken_closeGroup hclosing))), hmeans.language, fun horder => ?_⟩
  rw [kinds, ← List.singleton_append, BoundsInOrder.append_iff, BoundsInOrder.append_iff] at horder
  exact hmeans.inOrder horder.2.1

theorem IsRead.bare {atom : Phrase .atom} (h : atom.IsRead compile passes tokens) :
    (Phrase.bare atom).IsRead compile passes tokens := by
  intro reading groups level hawaits
  obtain ⟨last, hleads, hmeans⟩ := h reading groups level hawaits
  exact ⟨last, hleads, hmeans.language, hmeans.inOrder⟩

/-- The quantifier takes the last atom only. -/
theorem IsRead.quantified {inner : Phrase .repeated} {quantifier : Quantifier}
    (h : inner.IsRead compile passes tokens) (hkind : token.kind = quantifier.kind) :
    (Phrase.quantified inner quantifier).IsRead compile passes (tokens ++ [token]) := by
  intro reading groups level hawaits
  obtain ⟨last, hleads, hmeans⟩ := h reading groups level hawaits
  obtain ⟨min, max, hstep, hallows, hbounds⟩ :=
    exists_readToken_quantifier compile groups level last hkind
  refine ⟨_, hleads.append (.single hstep), Language.ext fun w => ?_, fun horder => ?_⟩
  · refine exists_congr fun k => ?_
    rw [hmeans.language, ← and_assoc, ← hallows]
  · rw [kinds, BoundsInOrder.append_iff] at horder
    exact ⟨hmeans.inOrder horder.1, hbounds horder.2⟩

theorem IsRead.single {item : Phrase .repeated} (h : item.IsRead compile passes tokens) :
    (Phrase.single item).IsRead compile passes tokens := by
  intro groups alternatives
  obtain ⟨last, hleads, hmeans⟩ := h _ groups ⟨alternatives, none⟩ .atom
  exact ⟨none, last, hleads, hmeans.language, hmeans.inOrder⟩

theorem IsRead.followed {row : Phrase .row} {item : Phrase .repeated}
    (hrow : row.IsRead compile passes tokens) (hitem : item.IsRead compile passes others) :
    (Phrase.followed row item).IsRead compile passes (tokens ++ others) := by
  intro groups alternatives
  obtain ⟨before, first, hfirst, hmeansRow⟩ := hrow groups alternatives
  obtain ⟨last, hleads, hmeansItem⟩ := hitem _ groups _ .operator
  refine ⟨some (.after before first), last, hfirst.append hleads, ?_, fun horder => ?_⟩
  · rw [language, ← hmeansRow.language, ← hmeansItem.language]
    rfl
  · rw [kinds, BoundsInOrder.append_iff] at horder
    exact ⟨hmeansRow.inOrder horder.1, hmeansItem.inOrder horder.2⟩

theorem IsRead.only {row : Phrase .row} (h : row.IsRead compile passes tokens) :
    (Phrase.only row).IsRead compile passes tokens := by
  intro groups
  obtain ⟨before, last, hleads, hmeans⟩ := h groups none
  exact ⟨⟨none, before⟩, last, hleads, hmeans.language, hmeans.inOrder⟩

/-- The bar takes the whole row before it. -/
theorem IsRead.either {left : Phrase .alternatives} {right : Phrase .row}
    (hleft : left.IsRead compile passes tokens) (hbar : token.kind = .bar)
    (hright : right.IsRead compile passes others) :
    (Phrase.either left right).IsRead compile passes (tokens ++ token :: others) := by
  intro groups
  obtain ⟨level, first, hfirst, hmeansLeft⟩ := hleft groups
  obtain ⟨before, last, hleads, hmeansRight⟩ := hright groups (some (level.whole first))
  refine ⟨_, last, hfirst.append (.cons (readToken_bar hbar) hleads), ?_, fun horder => ?_⟩
  · rw [language, ← hmeansLeft.language, ← hmeansRight.language]
    rfl
  · rw [kinds, ← List.singleton_append, BoundsInOrder.append_iff, BoundsInOrder.append_iff] at horder
    exact ⟨hmeansLeft.inOrder horder.1, hmeansRight.inOrder horder.2.2⟩

variable (passes) in
/-- The tokens of a phrase are read as an expression that means it. -/
theorem isRead {r : Rank} (phrase : Phrase r) (hkinds : tokens.map (·.kind) = phrase.kinds)
    (hcompiles : Compiles compile phrase.kinds) : phrase.IsRead compile passes tokens := by
  -- each case cuts the tokens as the phrase is written, so that its parts are read one after another
  induction phrase generalizing tokens with
  | component text => exact isRead_component text hkinds hcompiles
  | set negated first others => exact isRead_set negated first others hkinds hcompiles
  | group inner ih =>
    rw [kinds, Compiles.cons_iff, Compiles.append_iff] at hcompiles
    obtain ⟨opening, rest, rfl, hopening, hrest⟩ := List.map_eq_cons_iff.1 hkinds
    obtain ⟨body, end', rfl, hbody, hend⟩ := List.map_eq_append_iff.1 hrest
    obtain ⟨closing, rfl, hclosing⟩ := List.map_eq_singleton_iff.1 hend
    exact .group (ih hbody hcompiles.2.1) hopening hclosing
  | bare atom ih => exact .bare (ih hkinds hcompiles)
  | quantified inner quantifier ih =>
    rw [kinds, Compiles.append_iff] at hcompiles
    obtain ⟨body, end', rfl, hbody, hend⟩ := List.map_eq_append_iff.1 hkinds
    obtain ⟨token, rfl, hkind⟩ := List.map_eq_singleton_iff.1 hend
    exact .quantified (ih hbody hcompiles.1) hkind
  | single item ih => exact .single (ih hkinds hcompiles)
  | followed row item ihrow ihitem =>
    rw [kinds, Compiles.append_iff] at hcompiles
    obtain ⟨front, back, rfl, hfront, hback⟩ := List.map_eq_append_iff.1 hkinds
    exact .followed (ihrow hfront hcompiles.1) (ihitem hback hcompiles.2)
  | only row ih => exact .only (ih hkinds hcompiles)
  | either left right ihleft ihright =>
    rw [kinds, Compiles.append_iff, Compiles.cons_iff] at hcompiles
    obtain ⟨front, back, rfl, hfront, hback⟩ := List.map_eq_append_iff.1 hkinds
    obtain ⟨bar, others, rfl, hbar, hothers⟩ := List.map_eq_cons_iff.1 hback
    exact .either (ihleft hfront hcompiles.1) hbar (ihright hothers hcompiles.2.2)

end Phrase

/-! ## Whole patterns -/

section Parse

variable {tokens rest : List Token} {kinds : List TokenKind} {e : Expr (Selector τ)} {parsed : Parsed τ}

theorem map_kind_of_optionalToken {kind : TokenKind} {present : Bool}
    (h : optionalToken kind tokens = (present, rest)) :
    tokens.map (·.kind) = (if present then [kind] else []) ++ rest.map (·.kind) := by
  unfold optionalToken at h
  split at h
  · cases h
    rfl
  · next token others =>
    split at h
    · next hkind =>
      cases h
      simp [hkind]
    · cases h
      rfl

theorem exists_optionalToken {kind : TokenKind} {present : Bool}
    (h : tokens.map (·.kind) = (if present then [kind] else []) ++ kinds) (hother : kinds.head? ≠ some kind) :
    ∃ rest, optionalToken kind tokens = (present, rest) ∧ rest.map (·.kind) = kinds := by
  cases present with
  | true =>
    obtain ⟨token, rest, rfl, hkind, hrest⟩ := List.map_eq_cons_iff.1 h
    exact ⟨rest, if_pos hkind, hrest⟩
  | false =>
    refine ⟨tokens, ?_, h⟩
    cases tokens with
    | nil => rfl
    | cons token rest =>
      have hkinds : token.kind :: rest.map (·.kind) = kinds := h
      refine if_neg fun hkind => hother ?_
      rw [← hkinds, hkind, List.head?_cons]

/-- What stands between the anchors: an expression, if an atom starts there. -/
def readBody (compile : List Char → Option τ) (tokens : List Token) :
    Except PatternError (Expr (Selector τ) × List Token) :=
  match tokens.head? with
  | some token =>
    if token.kind.startsAtom then readExpr compile ⟨[], .atom .start⟩ tokens else .ok (.empty, tokens)
  | none => .ok (.empty, tokens)

/-- The pattern with this body, if nothing but the end follows it. -/
def readEnd (anchoredStart : Bool) (body : Expr (Selector τ) × List Token) :
    Except PatternError (Parsed τ) :=
  match (optionalToken .dollar body.2).2 with
  | [⟨.finish, _⟩] => .ok ⟨anchoredStart, (optionalToken .dollar body.2).1, body.1⟩
  | token :: _ => .error ((GrammarFault.trailing token.kind).at token.span)
  | [] => .error (GrammarFault.endMissing.at ⟨0, 0⟩)

/-- A pattern is a start, a body and an end. -/
theorem parse_eq (compile : List Char → Option τ) (tokens : List Token) : parse compile tokens
    = readBody compile (optionalToken .caret tokens).2 >>= readEnd (optionalToken .caret tokens).1 := by
  unfold parse readBody
  generalize optionalToken .caret tokens = start
  obtain ⟨anchoredStart, tokens⟩ := start
  cases tokens with
  | nil => rfl
  | cons token rest =>
    simp only [List.head?_cons]
    split <;> rfl

/-- A pattern is read if its body is and nothing but the end follows. -/
theorem parse_eq_ok_iff : parse compile tokens = .ok parsed ↔
    ∃ inner rest span, optionalToken .caret tokens = (parsed.anchoredStart, inner)
      ∧ readBody compile inner = .ok (parsed.expr, rest)
      ∧ optionalToken .dollar rest = (parsed.anchoredEnd, [⟨.finish, span⟩]) := by
  rw [parse_eq]
  constructor
  · intro h
    obtain ⟨body, hbody, hend⟩ := exists_of_bind_eq_ok h
    unfold readEnd at hend
    split at hend
    · next span hback =>
      cases hend
      exact ⟨_, body.2, span, rfl, hbody, Prod.ext rfl hback⟩
    · cases hend
    · cases hend
  · rintro ⟨inner, rest, span, hstart, hbody, hback⟩
    rw [hstart, hbody]
    change readEnd parsed.anchoredStart (parsed.expr, rest) = .ok parsed
    simp only [readEnd, hback]

theorem spells_of_readBody (h : readBody compile tokens = .ok (e, rest)) :
    ∃ (body : Option (Phrase .alternatives)) (taken : List Token), tokens = taken ++ rest
      ∧ body.elim [] Phrase.kinds = taken.map (·.kind) ∧ Compiles compile (taken.map (·.kind)) := by
  unfold readBody at h
  split at h
  · split at h
    · obtain ⟨taken, htokens, ⟨phrase, hphrase⟩, hcompiles⟩ := spells_of_readExpr .start h
      exact ⟨some phrase, taken, htokens, hphrase, hcompiles⟩
    · cases h
      exact ⟨none, [], rfl, rfl, .nil⟩
  · cases h
    exact ⟨none, [], rfl, rfl, .nil⟩

/-- An expression that is not in a group ends before the end of the pattern. -/
theorem readExpr_done {level : Level τ} {last : Expr (Selector τ)}
    (hend : tokens.head?.map (·.kind) = some .dollar ∨ tokens.head?.map (·.kind) = some .finish) :
    readExpr compile ⟨[], .operator level last⟩ tokens = .ok (level.whole last, tokens) := by
  cases tokens with
  | nil => rcases hend with hend | hend <;> cases hend
  | cons token rest =>
    obtain ⟨kind, span⟩ := token
    rcases hend with hend | hend <;> cases hend <;> rfl

variable (passes) in
/-- A body is read as an expression that stands for what it does. -/
theorem exists_readBody {body : Option (Phrase .alternatives)}
    (hkinds : tokens.map (·.kind) = body.elim [] Phrase.kinds ++ kinds)
    (hend : kinds.head? = some .dollar ∨ kinds.head? = some .finish)
    (hcompiles : Compiles compile (body.elim [] Phrase.kinds)) :
    ∃ e rest, readBody compile tokens = .ok (e, rest) ∧ rest.map (·.kind) = kinds
      ∧ e.language (Selector.language passes) = body.elim 1 (Phrase.language compile passes)
      ∧ (BoundsInOrder (body.elim [] Phrase.kinds) → e.InOrder) := by
  cases body with
  | none =>
    refine ⟨.empty, tokens, ?_, hkinds, rfl, fun _ => trivial⟩
    have hhead : tokens.head?.map (·.kind) = kinds.head? := by
      rw [← List.head?_map, hkinds, Option.elim_none, List.nil_append]
    unfold readBody
    cases hfirst : tokens.head? with
    | none => rfl
    | some token =>
      rw [hfirst, Option.map_some] at hhead
      have hstarts : token.kind.startsAtom = false := by
        rcases hend with hend | hend
        all_goals
          rw [hend, Option.some.injEq] at hhead
          rw [hhead]
          rfl
      simp only [hstarts, Bool.false_eq_true, if_false]
  | some phrase =>
    obtain ⟨taken, rest, rfl, htaken, hrest⟩ := List.map_eq_append_iff.1 hkinds
    obtain ⟨level, last, hleads, hmeans⟩ := phrase.isRead passes htaken hcompiles []
    refine ⟨level.whole last, rest, ?_, hrest, hmeans.language, hmeans.inOrder⟩
    obtain ⟨kind, others, hphrase, hstarts⟩ := phrase.kinds_ne_nil
    obtain ⟨token, front, rfl, hkind, -⟩ := List.map_eq_cons_iff.1 (htaken.trans hphrase)
    have hread : readBody compile (token :: front ++ rest)
        = readExpr compile ⟨[], .atom .start⟩ (token :: front ++ rest) := by
      unfold readBody
      rw [List.cons_append, List.head?_cons]
      exact if_pos (by rw [hkind, hstarts])
    rw [hread, hleads rest]
    rw [← hrest, List.head?_map] at hend
    exact readExpr_done hend

/-- The tests of a sentence are those of its body. -/
theorem compiles_sentence_iff {s : Sentence} :
    Compiles compile s.kinds ↔ Compiles compile (s.body.elim [] Phrase.kinds) := by
  have hanchor : ∀ (present : Bool) (kind : TokenKind), (∀ text, kind ≠ .component text) →
      Compiles compile (if present then [kind] else []) := by
    intro present kind hkind
    cases present with
    | true => exact .other hkind
    | false => exact .nil
  rw [Sentence.kinds, Compiles.append_iff, Compiles.append_iff, Compiles.append_iff]
  constructor
  · rintro ⟨-, hbody, -⟩
    exact hbody
  · intro hbody
    exact ⟨hanchor _ _ nofun, hbody, hanchor _ _ nofun, .other nofun⟩

/-- A pattern that is read was a sentence. -/
theorem exists_sentence_of_parse (h : parse compile tokens = .ok parsed) :
    (∃ s : Sentence, s.kinds = tokens.map (·.kind)) ∧ Compiles compile (tokens.map (·.kind)) := by
  obtain ⟨inner, rest, span, hstart, hbody, hback⟩ := parse_eq_ok_iff.1 h
  obtain ⟨body, taken, rfl, htaken, hcompiles⟩ := spells_of_readBody hbody
  have hkinds : Sentence.kinds ⟨parsed.anchoredStart, body, parsed.anchoredEnd⟩ = tokens.map (·.kind) := by
    rw [map_kind_of_optionalToken hstart, List.map_append, map_kind_of_optionalToken hback, ← htaken]
    rfl
  refine ⟨⟨_, hkinds⟩, ?_⟩
  rw [← hkinds, compiles_sentence_iff, htaken]
  exact hcompiles

variable (passes) in
/-- A sentence is read as a pattern that stands for what it does. -/
theorem exists_parse {s : Sentence} (hkinds : s.kinds = tokens.map (·.kind))
    (hcompiles : Compiles compile s.kinds) :
    ∃ e, parse compile tokens = .ok ⟨s.anchoredStart, s.anchoredEnd, e⟩
      ∧ e.language (Selector.language passes) = s.language compile passes
      ∧ (BoundsInOrder s.kinds → e.InOrder) := by
  obtain ⟨anchoredStart, body, anchoredEnd⟩ := s
  rw [compiles_sentence_iff] at hcompiles
  have hend : ((if anchoredEnd then [TokenKind.dollar] else []) ++ [TokenKind.finish]).head? = some .dollar
      ∨ ((if anchoredEnd then [TokenKind.dollar] else []) ++ [TokenKind.finish]).head? = some .finish := by
    cases anchoredEnd with
    | true => exact .inl rfl
    | false => exact .inr rfl
  have hcaret : (body.elim [] Phrase.kinds
      ++ ((if anchoredEnd then [TokenKind.dollar] else []) ++ [TokenKind.finish])).head? ≠ some .caret := by
    cases body with
    | none => rcases hend with hend | hend <;> simp [hend]
    | some phrase =>
      obtain ⟨kind, others, hphrase, hstarts⟩ := phrase.kinds_ne_nil
      rw [Option.elim_some, hphrase, List.cons_append, List.head?_cons]
      rintro ⟨⟩
      cases hstarts
  obtain ⟨inner, hstart, hinner⟩ := exists_optionalToken hkinds.symm hcaret
  obtain ⟨e, rest, hbody, hrest, hlanguage, horder⟩ :=
    exists_readBody passes hinner hend hcompiles
  obtain ⟨behind, hback, hbehind⟩ := exists_optionalToken hrest (by simp)
  obtain ⟨⟨kind, span⟩, rfl, rfl⟩ := List.map_eq_singleton_iff.1 hbehind
  refine ⟨e, parse_eq_ok_iff.2 ⟨inner, rest, span, hstart, hbody, hback⟩, hlanguage, fun h => horder ?_⟩
  rw [Sentence.kinds, BoundsInOrder.append_iff, BoundsInOrder.append_iff] at h
  exact h.2.1

/-- What is read of a sentence has its anchors and its language, and accepts accordingly. -/
theorem means_of_parse (passes : τ → α → Bool) {s : Sentence} (h : parse compile tokens = .ok parsed)
    (hkinds : s.kinds = tokens.map (·.kind)) :
    parsed.anchoredStart = s.anchoredStart ∧ parsed.anchoredEnd = s.anchoredEnd
      ∧ parsed.expr.language (Selector.language passes) = s.language compile passes
      ∧ (BoundsInOrder s.kinds → ∀ items, parsed.accepts passes items = true ↔
          ∃ p q, (p ≤ q ∧ q ≤ items.length ∧ items.extract p q ∈ s.language compile passes)
            ∧ (s.anchoredStart = true → p = 0) ∧ (s.anchoredEnd = true → q = items.length)) := by
  have hcompiles := (exists_sentence_of_parse h).2
  rw [← hkinds] at hcompiles
  obtain ⟨e, hread, hlanguage, horder⟩ := exists_parse passes hkinds hcompiles
  obtain rfl := Except.ok.inj (h.symm.trans hread)
  refine ⟨rfl, rfl, hlanguage, fun hbounds items => ?_⟩
  rw [← hlanguage]
  exact Expr.search_iff (fun _ _ _ => Selector.mem_step) (horder hbounds) _ _

/-- The reader of patterns decides the grammar: a row of tokens is read if and only if it is a sentence and
all its component tests have a meaning. What is read then has the anchors of the sentence and the language
of its phrases, however they are derived: a quantifier repeats the last atom, a row is a concatenation, and
a bar stands between whole rows. The pattern accepts a list if and only if a stretch of it is in that
language, tied to the ends as the anchors of the whole say. -/
theorem parse_decides_sentences (compile : List Char → Option τ) (passes : τ → α → Bool)
    (tokens : List Token) :
    ((∃ parsed, parse compile tokens = .ok parsed) ↔
      (∃ s : Sentence, s.kinds = tokens.map (·.kind)) ∧ Compiles compile (tokens.map (·.kind)))
    ∧ ∀ parsed (s : Sentence), parse compile tokens = .ok parsed → s.kinds = tokens.map (·.kind) →
        parsed.anchoredStart = s.anchoredStart ∧ parsed.anchoredEnd = s.anchoredEnd
          ∧ parsed.expr.language (Selector.language passes) = s.language compile passes
          ∧ (BoundsInOrder s.kinds → ∀ items, parsed.accepts passes items = true ↔
              ∃ p q, (p ≤ q ∧ q ≤ items.length ∧ items.extract p q ∈ s.language compile passes)
                ∧ (s.anchoredStart = true → p = 0) ∧ (s.anchoredEnd = true → q = items.length)) := by
  refine ⟨⟨fun ⟨_, h⟩ => exists_sentence_of_parse h, ?_⟩, fun _ _ => means_of_parse passes⟩
  rintro ⟨⟨s, hkinds⟩, hcompiles⟩
  rw [← hkinds] at hcompiles
  obtain ⟨e, hparse, -⟩ := exists_parse passes hkinds hcompiles
  exact ⟨_, hparse⟩

end Parse

/-- One item and, if there is one, another, or else a third, up to the end. -/
def rowOrItem : Sentence :=
  ⟨false, some (.either
    (.only (.followed (.single (.bare (.component ['a']))) (.quantified (.bare (.component ['b'])) .question)))
    (.single (.bare (.component ['c'])))), true⟩

theorem parse_decides_sentences_rowOrItem :
    ∃ parsed, parse some (rowOrItem.kinds.map (⟨·, ⟨0, 0⟩⟩)) = .ok parsed
      ∧ parsed.accepts (· == ·) [['c'], ['a'], ['b']] = true := by
  obtain ⟨hreads, hmeans⟩ := parse_decides_sentences (some : List Char → Option (List Char)) (· == ·)
    (rowOrItem.kinds.map (⟨·, ⟨0, 0⟩⟩))
  obtain ⟨parsed, hparse⟩ := hreads.2 ⟨⟨rowOrItem, rfl⟩, fun _ _ => rfl⟩
  obtain ⟨-, -, -, haccepts⟩ := hmeans parsed rowOrItem hparse rfl
  have hbounds : BoundsInOrder rowOrItem.kinds := by
    intro min most h
    simp [rowOrItem, Sentence.kinds, Phrase.kinds, Quantifier.kind] at h
  refine ⟨parsed, hparse, (haccepts hbounds _).2 ⟨1, 3, ⟨by decide, by decide, .inl ?_⟩,
    by simp [rowOrItem], fun _ => rfl⟩⟩
  have hoptional : [['b']] ∈ (Phrase.quantified (.bare (.component ['b'])) .question).language some
      (· == · : List Char → List Char → Bool) := by
    refine ⟨1, .inr rfl, ?_⟩
    rw [pow_one]
    exact ⟨_, rfl, _, rfl, rfl⟩
  exact Language.append_mem_mul (a := [['a']]) ⟨_, rfl, _, rfl, rfl⟩ hoptional

end NamedData.Pattern
