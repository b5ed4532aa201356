import NamedData.Proofs.Pattern.Phrase
import NamedData.Proofs.Results

/-!
# What the reader of patterns has read

What the machine has read is a start of a phrase: the groups that are open with what came before them,
the alternatives before the last bar, the row before the last atom (`Reading.HasRead`). Each token
extends it or ends it (`Reading.HasRead.step`), so the tokens of an expression that is read are those of
alternatives (`spells_of_readExpr`).
-/

namespace NamedData.Pattern

variable {τ : Type} {compile : List Char → Option τ}

/-- All component tests among the tokens have a meaning. -/
def Compiles (compile : List Char → Option τ) (kinds : List TokenKind) : Prop :=
  ∀ text, .component text ∈ kinds → (compile text).isSome = true

namespace Compiles

theorem nil : Compiles compile [] :=
  fun _ h => absurd h List.not_mem_nil

theorem append_iff {ks ls : List TokenKind} :
    Compiles compile (ks ++ ls) ↔ Compiles compile ks ∧ Compiles compile ls := by
  simp only [Compiles, List.mem_append, or_imp, forall_and]

theorem cons_iff {kind : TokenKind} {kinds : List TokenKind} : Compiles compile (kind :: kinds) ↔
    (∀ text, kind = .component text → (compile text).isSome = true) ∧ Compiles compile kinds := by
  simp only [Compiles, List.mem_cons, or_imp, forall_and, eq_comm]

theorem component {text : List Char} {test : τ} (h : compile text = some test) :
    Compiles compile [.component text] := by
  intro text' htext
  cases List.mem_singleton.1 htext
  rw [h]
  rfl

theorem other {kind : TokenKind} (h : ∀ text, kind ≠ .component text) : Compiles compile [kind] :=
  fun text htext => absurd (List.mem_singleton.1 htext).symm (h text)

end Compiles

/-! ## What one token can do -/

section Steps

variable {groups : List (OpenGroup τ)} {level : Level τ} {last : Expr (Selector τ)} {token : Token}

theorem componentTest_eq_ok {text : List Char} {span : Span} {test : τ} :
    componentTest compile text span = .ok test ↔ compile text = some test := by
  unfold componentTest
  cases compile text <;> simp

/-- The first token of an atom is a component, or it opens a set or a group. -/
theorem readAtom_eq_ok {reading : Reading τ} (h : readAtom compile groups level token = .ok reading) :
    (∃ text test, token.kind = .component text ∧ compile text = some test
        ∧ reading = ⟨groups, .operator level (.test (.one test))⟩)
      ∨ (token.kind = .openSet ∧ reading = ⟨groups, .setStart level token.span⟩)
      ∨ (token.kind = .openGroup ∧ reading = ⟨⟨token.span, level⟩ :: groups, .atom .start⟩) := by
  unfold readAtom at h
  split at h
  · next text hkind =>
    obtain ⟨test, htest, hnext⟩ := exists_of_bind_eq_ok h
    cases hnext
    exact .inl ⟨text, test, hkind, componentTest_eq_ok.1 htest, rfl⟩
  · next hkind =>
    cases h
    exact .inr (.inl ⟨hkind, rfl⟩)
  · next hkind =>
    cases h
    exact .inr (.inr ⟨hkind, rfl⟩)
  · cases h
  · cases h

/-- A token of a set is a component, or it ends the set if there is a test. -/
theorem readInSet_eq_ok {opening : Span} {negated : Bool} {tests : List τ} {reading : Reading τ}
    (h : readInSet compile groups level opening negated tests token = .ok reading) :
    (∃ text test, token.kind = .component text ∧ compile text = some test
        ∧ reading = ⟨groups, .setRest level opening negated (tests ++ [test])⟩)
      ∨ (token.kind = .closeSet ∧ tests ≠ []
        ∧ reading = ⟨groups, .operator level (.test (.set tests negated))⟩) := by
  unfold readInSet at h
  split at h
  · next text hkind =>
    obtain ⟨test, htest, hnext⟩ := exists_of_bind_eq_ok h
    cases hnext
    exact .inl ⟨text, test, hkind, componentTest_eq_ok.1 htest, rfl⟩
  · next hkind =>
    cases tests with
    | nil => cases h
    | cons test tests =>
      cases h
      exact .inr ⟨hkind, List.cons_ne_nil _ _, rfl⟩
  · cases h
  · cases h

theorem readOperator_of_startsAtom (h : token.kind.startsAtom = true) :
    readOperator compile groups level last token
      = .more <$> readAtom compile groups (level.next last) token := by
  obtain ⟨kind, span⟩ := token
  cases kind with
  | component | openSet | openGroup => rfl
  | _ => cases h

/-- A token behind an atom is a quantifier, a bar or the first of another atom, or it ends a group, if one
is open, or else the expression. -/
theorem readOperator_eq_ok {outcome : Outcome τ}
    (h : readOperator compile groups level last token = .ok outcome) :
    (∃ (quantifier : Quantifier) (repeated : _), token.kind = quantifier.kind
        ∧ outcome = .more ⟨groups, .operator level repeated⟩)
      ∨ (token.kind = .bar ∧ outcome = .more ⟨groups, .atom (level.nextAlternative last)⟩)
      ∨ (∃ reading, readAtom compile groups (level.next last) token = .ok reading
        ∧ outcome = .more reading)
      ∨ (∃ group outer, groups = group :: outer ∧ token.kind = .closeGroup
        ∧ outcome = .more ⟨outer, .operator group.level (level.whole last)⟩)
      ∨ (groups = [] ∧ outcome = .done (level.whole last)) := by
  obtain ⟨kind, span⟩ := token
  cases kind with
  | question =>
    cases h
    exact .inl ⟨.question, _, rfl, rfl⟩
  | plus =>
    cases h
    exact .inl ⟨.plus, _, rfl, rfl⟩
  | star =>
    cases h
    exact .inl ⟨.star, _, rfl, rfl⟩
  | repetition min max =>
    cases h
    exact .inl ⟨.between min max, _, rfl, rfl⟩
  | bar =>
    cases h
    exact .inr (.inl ⟨rfl, rfl⟩)
  | component | openSet | openGroup =>
    rw [readOperator_of_startsAtom rfl] at h
    obtain ⟨reading, hread, rfl⟩ := exists_of_map_eq_ok h
    exact .inr (.inr (.inl ⟨reading, hread, rfl⟩))
  | closeSet | caret | dollar | closeGroup | finish =>
    cases groups with
    | nil =>
      cases h
      exact .inr (.inr (.inr (.inr ⟨rfl, rfl⟩)))
    | cons group outer =>
      cases h
      all_goals exact .inr (.inr (.inr (.inl ⟨_, _, rfl, rfl, rfl⟩)))

end Steps

/-! ## What has been read -/

/-- The tokens are those of a phrase of some kind. -/
def Spells (r : Rank) (kinds : List TokenKind) : Prop :=
  ∃ phrase : Phrase r, phrase.kinds = kinds

/-- The tokens are the row before the last atom, if there is one. -/
inductive RowRead : Option (Expr (Selector τ)) → List TokenKind → Prop where
  | none : RowRead none []
  | some {row : Expr (Selector τ)} {ks : List TokenKind} (h : Spells .row ks) : RowRead (some row) ks

/-- The tokens are the alternatives before the last bar with the bar, if there is one. -/
inductive AlternativesRead : Option (Expr (Selector τ)) → List TokenKind → Prop where
  | none : AlternativesRead none []
  | some {alternatives : Expr (Selector τ)} {ks : List TokenKind} (h : Spells .alternatives ks) :
    AlternativesRead (some alternatives) (ks ++ [.bar])

/-- The tokens are what comes before the last atom. -/
inductive Level.HasRead : Level τ → List TokenKind → Prop where
  | mk {alternatives row : Option (Expr (Selector τ))} {ks ls : List TokenKind}
    (halternatives : AlternativesRead alternatives ks) (hrow : RowRead row ls) :
    HasRead ⟨alternatives, row⟩ (ks ++ ls)

section Level

variable {level : Level τ} {last : Expr (Selector τ)} {row alternatives : Option (Expr (Selector τ))}
  {ks ls : List TokenKind}

theorem RowRead.spells (h : RowRead row ks) (hlast : Spells .repeated ls) : Spells .row (ks ++ ls) := by
  obtain ⟨item, rfl⟩ := hlast
  cases h with
  | none => exact ⟨.single item, rfl⟩
  | some h =>
    obtain ⟨row, rfl⟩ := h
    exact ⟨.followed row item, rfl⟩

theorem AlternativesRead.spells (h : AlternativesRead alternatives ks) (hrow : Spells .row ls) :
    Spells .alternatives (ks ++ ls) := by
  obtain ⟨row, rfl⟩ := hrow
  cases h with
  | none => exact ⟨.only row, rfl⟩
  | some h =>
    obtain ⟨left, rfl⟩ := h
    exact ⟨.either left row, by simp [Phrase.kinds]⟩

theorem Level.HasRead.start : HasRead (τ := τ) .start [] :=
  .mk .none .none

/-- Another atom may follow the last one. -/
theorem Level.HasRead.next (h : level.HasRead ks) (hlast : Spells .repeated ls) :
    (level.next last).HasRead (ks ++ ls) := by
  cases h with
  | mk halternatives hrow =>
    rw [List.append_assoc]
    exact .mk halternatives (.some (hrow.spells hlast))

/-- The last atom may be the end. -/
theorem Level.HasRead.whole (h : level.HasRead ks) (hlast : Spells .repeated ls) :
    Spells .alternatives (ks ++ ls) := by
  cases h with
  | mk halternatives hrow =>
    rw [List.append_assoc]
    exact halternatives.spells (hrow.spells hlast)

/-- A bar may follow the last atom. -/
theorem Level.HasRead.nextAlternative (h : level.HasRead ks) (hlast : Spells .repeated ls) :
    (level.nextAlternative last).HasRead (ks ++ ls ++ [.bar]) := by
  have hread : (level.nextAlternative last).HasRead (ks ++ ls ++ [.bar] ++ []) :=
    .mk (.some (h.whole hlast)) .none
  rwa [List.append_nil] at hread

end Level

/-- The tokens are those before the innermost open group, with its parenthesis. -/
inductive GroupsRead : List (OpenGroup τ) → List TokenKind → Prop where
  | nil : GroupsRead [] []
  | cons {group : OpenGroup τ} {outer : List (OpenGroup τ)} {ks ls : List TokenKind}
    (houter : GroupsRead outer ks) (hlevel : group.level.HasRead ls) :
    GroupsRead (group :: outer) (ks ++ ls ++ [.openGroup])

/-- The tokens are those of the innermost open group so far. -/
inductive Expecting.HasRead : Expecting τ → List TokenKind → Prop where
  | atom {level : Level τ} {ks : List TokenKind} (hlevel : level.HasRead ks) : HasRead (.atom level) ks
  | operator {level : Level τ} {last : Expr (Selector τ)} {ks ls : List TokenKind}
    (hlevel : level.HasRead ks) (hlast : Spells .repeated ls) : HasRead (.operator level last) (ks ++ ls)
  | setStart {level : Level τ} {opening : Span} {ks : List TokenKind} (hlevel : level.HasRead ks) :
    HasRead (.setStart level opening) (ks ++ [.openSet])
  | setRest {level : Level τ} {opening : Span} {negated : Bool} {tests : List τ} {ks : List TokenKind}
    {texts : List (List Char)} (hlevel : level.HasRead ks) (hlength : tests.length = texts.length) :
    HasRead (.setRest level opening negated tests)
      (ks ++ .openSet :: ((if negated then [.caret] else []) ++ texts.map .component))

/-- The tokens are those of an expression so far. -/
inductive Reading.HasRead : Reading τ → List TokenKind → Prop where
  | mk {groups : List (OpenGroup τ)} {expecting : Expecting τ} {ks ls : List TokenKind}
    (hgroups : GroupsRead groups ks) (hexpecting : expecting.HasRead ls) : HasRead ⟨groups, expecting⟩ (ks ++ ls)

section Reading

variable {reading : Reading τ} {groups : List (OpenGroup τ)} {level : Level τ} {last : Expr (Selector τ)}
  {token : Token} {ks ls : List TokenKind}

theorem Reading.HasRead.start : HasRead (τ := τ) ⟨[], .atom .start⟩ [] :=
  .mk .nil (.atom .start)

theorem hasRead_of_readAtom (hgroups : GroupsRead groups ks) (hlevel : level.HasRead ls)
    (h : readAtom compile groups level token = .ok reading) :
    reading.HasRead (ks ++ ls ++ [token.kind]) ∧ Compiles compile [token.kind] := by
  obtain ⟨text, test, hkind, htest, rfl⟩ | ⟨hkind, rfl⟩ | ⟨hkind, rfl⟩ := readAtom_eq_ok h
  · rw [hkind, List.append_assoc]
    exact ⟨.mk hgroups (.operator hlevel ⟨.bare (.component text), rfl⟩), .component htest⟩
  · rw [hkind, List.append_assoc]
    exact ⟨.mk hgroups (.setStart hlevel), .other nofun⟩
  · rw [hkind]
    have hread : Reading.HasRead ⟨⟨token.span, level⟩ :: groups, .atom .start⟩ (ks ++ ls ++ [.openGroup] ++ []) :=
      .mk (.cons hgroups hlevel) (.atom .start)
    rw [List.append_nil] at hread
    exact ⟨hread, .other nofun⟩

theorem hasRead_of_readInSet {opening : Span} {negated : Bool} {tests : List τ} (texts : List (List Char))
    (hgroups : GroupsRead groups ks) (hlevel : level.HasRead ls) (hlength : tests.length = texts.length)
    (h : readInSet compile groups level opening negated tests token = .ok reading) :
    reading.HasRead (ks ++ (ls ++ .openSet :: ((if negated then [.caret] else []) ++ texts.map .component))
      ++ [token.kind]) ∧ Compiles compile [token.kind] := by
  obtain ⟨text, test, hkind, htest, rfl⟩ | ⟨hkind, hne, rfl⟩ := readInSet_eq_ok h
  · have hread : Reading.HasRead ⟨groups, .setRest level opening negated (tests ++ [test])⟩ (ks ++ (ls ++
        .openSet :: ((if negated then [.caret] else []) ++ (texts ++ [text]).map .component))) :=
      .mk hgroups (.setRest hlevel (by simp [hlength]))
    rw [hkind]
    exact ⟨by simpa using hread, .component htest⟩
  · cases texts with
    | nil => exact absurd (List.length_eq_zero_iff.1 hlength) hne
    | cons first others =>
      have hread : Reading.HasRead ⟨groups, .operator level (.test (.set tests negated))⟩
          (ks ++ (ls ++ (Phrase.set negated first others).kinds)) :=
        .mk hgroups (.operator hlevel ⟨.bare (.set negated first others), rfl⟩)
      rw [hkind]
      exact ⟨by simpa [Phrase.kinds] using hread, .other nofun⟩

/-- A token behind an atom goes on with the expression, or ends it. -/
theorem hasRead_of_readOperator {outcome : Outcome τ} {ms : List TokenKind} (hgroups : GroupsRead groups ks)
    (hlevel : level.HasRead ls) (hlast : Spells .repeated ms)
    (h : readOperator compile groups level last token = .ok outcome) :
    (∃ next, outcome = .more next ∧ next.HasRead (ks ++ (ls ++ ms) ++ [token.kind])
        ∧ Compiles compile [token.kind])
      ∨ ∃ e, outcome = .done e ∧ Spells .alternatives (ks ++ (ls ++ ms)) := by
  rcases readOperator_eq_ok h with ⟨quantifier, repeated, hkind, rfl⟩ | ⟨hkind, rfl⟩ | ⟨next, hatom, rfl⟩
    | ⟨group, outer, rfl, hkind, rfl⟩ | ⟨rfl, rfl⟩
  · obtain ⟨inner, rfl⟩ := hlast
    have hread : Reading.HasRead ⟨groups, .operator level repeated⟩
        (ks ++ (ls ++ (inner.kinds ++ [quantifier.kind]))) :=
      .mk hgroups (.operator hlevel ⟨.quantified inner quantifier, rfl⟩)
    rw [hkind]
    refine .inl ⟨_, rfl, by simpa [Phrase.kinds] using hread, .other ?_⟩
    cases quantifier <;> simp [Quantifier.kind]
  · have hread : Reading.HasRead ⟨groups, .atom (level.nextAlternative last)⟩ (ks ++ (ls ++ ms ++ [.bar])) :=
      .mk hgroups (.atom (hlevel.nextAlternative hlast))
    rw [hkind]
    exact .inl ⟨_, rfl, by simpa using hread, .other (by simp)⟩
  · exact .inl ⟨next, rfl, hasRead_of_readAtom hgroups (hlevel.next hlast) hatom⟩
  · cases hgroups with
    | @cons _ _ ks' ls' houter houterLevel =>
      obtain ⟨inner, hinner⟩ := hlevel.whole hlast
      have hread : Reading.HasRead ⟨outer, .operator group.level (level.whole last)⟩
          (ks' ++ (ls' ++ (Phrase.group inner).kinds)) :=
        .mk houter (.operator houterLevel ⟨.bare (.group inner), rfl⟩)
      rw [hkind]
      exact .inl ⟨_, rfl, by simpa [Phrase.kinds, hinner] using hread, .other (by simp)⟩
  · cases hgroups
    exact .inr ⟨_, rfl, hlevel.whole hlast⟩

/-- A token goes on with the expression, and if it is a component test, that has a meaning; or the
expression ends before it. -/
theorem Reading.HasRead.step {outcome : Outcome τ} (hread : reading.HasRead ks)
    (h : readToken compile reading token = .ok outcome) :
    (∃ next, outcome = .more next ∧ next.HasRead (ks ++ [token.kind]) ∧ Compiles compile [token.kind])
      ∨ ∃ e, outcome = .done e ∧ Spells .alternatives ks := by
  obtain ⟨hgroups, hexpecting⟩ := hread
  cases hexpecting with
  | atom hlevel =>
    obtain ⟨next, hatom, rfl⟩ := exists_of_map_eq_ok h
    exact .inl ⟨next, rfl, hasRead_of_readAtom hgroups hlevel hatom⟩
  | operator hlevel hlast => exact hasRead_of_readOperator hgroups hlevel hlast h
  | @setStart level opening ls hlevel =>
    simp only [readToken] at h
    split at h
    · next hcaret =>
      cases h
      have hset : (Expecting.setRest level opening true []).HasRead
          (ls ++ .openSet :: ([.caret] ++ ([] : List (List Char)).map .component)) :=
        .setRest hlevel rfl
      rw [hcaret]
      exact .inl ⟨_, rfl, by simpa using Reading.HasRead.mk hgroups hset, .other nofun⟩
    · obtain ⟨next, hset, rfl⟩ := exists_of_map_eq_ok h
      exact .inl ⟨next, rfl, hasRead_of_readInSet [] hgroups hlevel rfl hset⟩
  | setRest hlevel hlength =>
    obtain ⟨next, hset, rfl⟩ := exists_of_map_eq_ok h
    exact .inl ⟨next, rfl, hasRead_of_readInSet _ hgroups hlevel hlength hset⟩

/-- The tokens of an expression that is read are those of alternatives. -/
theorem spells_of_readExpr {e : Expr (Selector τ)} {tokens rest : List Token} (hread : reading.HasRead ks)
    (h : readExpr compile reading tokens = .ok (e, rest)) :
    ∃ taken, tokens = taken ++ rest ∧ Spells .alternatives (ks ++ taken.map (·.kind))
      ∧ Compiles compile (taken.map (·.kind)) := by
  induction tokens generalizing reading ks with
  | nil => cases h
  | cons token tokens ih =>
    simp only [readExpr] at h
    split at h
    · next next hmore =>
      obtain ⟨_, heq, hnext, htoken⟩ | ⟨_, hdone, -⟩ := hread.step hmore
      · cases heq
        obtain ⟨taken, rfl, hspells, hcompiles⟩ := ih hnext h
        rw [List.append_assoc] at hspells
        exact ⟨token :: taken, rfl, hspells, Compiles.append_iff.2 ⟨htoken, hcompiles⟩⟩
      · cases hdone
    · next e' hdone =>
      cases h
      obtain ⟨_, hmore, -, -⟩ | ⟨_, -, hspells⟩ := hread.step hdone
      · cases hmore
      · exact ⟨[], rfl, by simpa using hspells, .nil⟩
    · cases h

end Reading

end NamedData.Pattern
