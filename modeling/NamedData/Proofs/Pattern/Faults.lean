import NamedData.Proofs.Pattern.Covering

/-!
# Errors point into the text

An error of the grammar points at a token, at the parenthesis or bracket that opened what is not closed, or
from such a bracket to a token behind it. The machine keeps the openings (`Reading.Points`), so that every
error, whether of the lexer or of the grammar, points at a stretch of the text and can be shown
(`tokens_cover_and_errors_report`).
-/

namespace NamedData.Pattern

variable {τ : Type} {compile : List Char → Option τ} {text : List Char} {token : Token} {tokens : List Token}
  {reading : Reading τ} {groups : List (OpenGroup τ)} {level : Level τ} {last : Expr (Selector τ)}
  {e : PatternError}

/-! ## What one token can be blamed for -/

/-- What is no atom is blamed on its token. -/
theorem span_of_readAtom (h : readAtom compile groups level token = .error e) : e.span = token.span := by
  unfold readAtom at h
  split at h
  · next component hkind =>
    rcases error_of_bind h with htest | ⟨test, -, hnext⟩
    · unfold componentTest at htest
      split at htest
      · cases htest
      · cases htest
        rfl
    · cases hnext
  · cases h
  · cases h
  · cases h
    rfl
  · cases h
    rfl

/-- What is wrong in a set is blamed on the token, on the bracket that opened the set, or on all from the
one to the other. -/
theorem span_of_readInSet {opening : Span} {negated : Bool} {tests : List τ}
    (h : readInSet compile groups level opening negated tests token = .error e) :
    e.span = token.span ∨ e.span = opening ∨ e.span = ⟨opening.start, token.span.stop⟩ := by
  unfold readInSet at h
  split at h
  · next component hkind =>
    rcases error_of_bind h with htest | ⟨test, -, hnext⟩
    · unfold componentTest at htest
      split at htest
      · cases htest
      · cases htest
        exact .inl rfl
    · cases hnext
  · cases tests with
    | nil =>
      cases h
      exact .inr (.inr rfl)
    | cons test tests => cases h
  · cases h
    exact .inr (.inl rfl)
  · cases h
    exact .inl rfl

/-- What may not follow an atom is blamed on the token, or on the parenthesis that opened a group. -/
theorem span_of_readOperator (h : readOperator compile groups level last token = .error e) :
    e.span = token.span ∨ ∃ group ∈ groups, e.span = group.opening := by
  obtain ⟨kind, span⟩ := token
  cases kind with
  | component | openSet | openGroup =>
    rw [readOperator_of_startsAtom rfl] at h
    exact .inl (span_of_readAtom (eq_error_of_map h))
  | question | plus | star | repetition | bar => cases h
  | closeSet | caret | dollar =>
    cases groups with
    | nil => cases h
    | cons group outer =>
      cases h
      exact .inl rfl
  | closeGroup =>
    cases groups with
    | nil => cases h
    | cons group outer => cases h
  | finish =>
    cases groups with
    | nil => cases h
    | cons group outer =>
      cases h
      exact .inr ⟨group, List.mem_cons_self, rfl⟩

/-! ## What the machine keeps -/

/-- The bracket that opened the set which is being read. -/
def Expecting.opening? : Expecting τ → Option Span
  | atom _ | operator _ _ => none
  | setStart _ opening | setRest _ opening _ _ => some opening

/-- The openings are stretches of the text, and a set was opened before all tokens that are left. -/
structure Reading.Points (text : List Char) (tokens : List Token) (reading : Reading τ) : Prop where
  groups : ∀ group ∈ reading.groups, group.opening.Within text
  set : ∀ opening ∈ reading.expecting.opening?,
    opening.Within text ∧ ∀ token ∈ tokens, opening.start ≤ token.span.stop

/-- Tokens stand in a text in order. -/
structure Placed (text : List Char) (tokens : List Token) : Prop where
  inOrder : tokens.Pairwise fun a b => a.span.stop ≤ b.span.start
  within : ∀ token ∈ tokens, token.span.Within text

theorem Covers.placed (h : Covers text tokens) : Placed text tokens where
  inOrder := h.inOrder
  within token htoken := by
    obtain ⟨before, lexeme, after, hcuts, -⟩ := h.written token htoken
    exact ⟨before, lexeme, after, hcuts⟩

namespace Placed

theorem tail (h : Placed text (token :: tokens)) : Placed text tokens :=
  ⟨h.inOrder.of_cons, fun _ ht => h.within _ (List.mem_cons_of_mem _ ht)⟩

theorem head (h : Placed text (token :: tokens)) : token.span.Within text :=
  h.within _ List.mem_cons_self

/-- A token starts before those behind it end. -/
theorem start_le_stop (h : Placed text (token :: tokens)) :
    ∀ other ∈ tokens, token.span.start ≤ other.span.stop := by
  intro other hother
  have horder : token.span.stop ≤ other.span.start := List.rel_of_pairwise_cons h.inOrder hother
  obtain ⟨_, _, _, hcuts⟩ := h.head
  obtain ⟨_, _, _, hcuts'⟩ := h.tail.within other hother
  exact (hcuts.start_le_stop.trans horder).trans hcuts'.start_le_stop

end Placed

namespace Reading.Points

theorem start (text : List Char) (tokens : List Token) :
    Reading.Points (τ := τ) text tokens ⟨[], .atom .start⟩ :=
  ⟨fun _ hgroup => absurd hgroup List.not_mem_nil, nofun⟩

theorem of_readAtom (hgroups : ∀ group ∈ groups, group.opening.Within text)
    (hplaced : Placed text (token :: tokens))
    (h : readAtom compile groups level token = .ok reading) : reading.Points text tokens := by
  obtain ⟨_, test, -, -, rfl⟩ | ⟨-, rfl⟩ | ⟨-, rfl⟩ := readAtom_eq_ok h
  · exact ⟨hgroups, nofun⟩
  · refine ⟨hgroups, fun opening hopening => ?_⟩
    cases hopening
    exact ⟨hplaced.head, hplaced.start_le_stop⟩
  · exact ⟨List.forall_mem_cons.2 ⟨hplaced.head, hgroups⟩, nofun⟩

theorem of_readInSet {opening : Span} {negated : Bool} {tests : List τ}
    (hgroups : ∀ group ∈ groups, group.opening.Within text)
    (hset : opening.Within text ∧ ∀ token ∈ tokens, opening.start ≤ token.span.stop)
    (h : readInSet compile groups level opening negated tests token = .ok reading) :
    reading.Points text tokens := by
  obtain ⟨_, test, -, -, rfl⟩ | ⟨-, -, rfl⟩ := readInSet_eq_ok h
  · refine ⟨hgroups, fun opening' hopening => ?_⟩
    cases hopening
    exact hset
  · exact ⟨hgroups, nofun⟩

/-- A token that is read leaves the openings in the text. -/
theorem step {next : Reading τ} (hpoints : reading.Points text (token :: tokens))
    (hplaced : Placed text (token :: tokens)) (h : readToken compile reading token = .ok (.more next)) :
    next.Points text tokens := by
  obtain ⟨groups, expecting⟩ := reading
  obtain ⟨hgroups, hset⟩ := hpoints
  have hset' : ∀ opening ∈ expecting.opening?,
      opening.Within text ∧ ∀ token ∈ tokens, opening.start ≤ token.span.stop :=
    fun opening hopening => ⟨(hset opening hopening).1,
      fun other hother => (hset opening hopening).2 other (List.mem_cons_of_mem _ hother)⟩
  cases expecting with
  | atom level =>
    obtain ⟨_, hatom, heq⟩ := exists_of_map_eq_ok h
    cases heq
    exact of_readAtom hgroups hplaced hatom
  | operator level last =>
    rcases readOperator_eq_ok h with ⟨quantifier, repeated, -, heq⟩ | ⟨-, heq⟩ | ⟨_, hatom, heq⟩
      | ⟨group, outer, rfl, -, heq⟩ | ⟨-, heq⟩
    · cases heq
      exact ⟨hgroups, nofun⟩
    · cases heq
      exact ⟨hgroups, nofun⟩
    · cases heq
      exact of_readAtom hgroups hplaced hatom
    · cases heq
      exact ⟨(List.forall_mem_cons.1 hgroups).2, nofun⟩
    · cases heq
  | setStart level opening =>
    simp only [readToken] at h
    split at h
    · cases h
      exact ⟨hgroups, hset'⟩
    · obtain ⟨_, hread, heq⟩ := exists_of_map_eq_ok h
      cases heq
      exact of_readInSet hgroups (hset' opening rfl) hread
  | setRest level opening negated tests =>
    obtain ⟨_, hread, heq⟩ := exists_of_map_eq_ok h
    cases heq
    exact of_readInSet hgroups (hset' opening rfl) hread

/-- A token that is not read is blamed on a stretch of the text. -/
theorem within_of_readToken (hpoints : reading.Points text (token :: tokens))
    (hplaced : Placed text (token :: tokens)) (h : readToken compile reading token = .error e) :
    e.span.Within text := by
  obtain ⟨groups, expecting⟩ := reading
  obtain ⟨hgroups, hset⟩ := hpoints
  have hinSet {level : Level τ} {opening : Span} {negated : Bool} {tests : List τ}
      (hopening : opening ∈ expecting.opening?)
      (hread : readInSet compile groups level opening negated tests token = .error e) : e.span.Within text := by
    obtain ⟨hwithin, hle⟩ := hset opening hopening
    rcases span_of_readInSet hread with heq | heq | heq <;> rw [heq]
    · exact hplaced.head
    · exact hwithin
    · exact hwithin.join hplaced.head (hle token List.mem_cons_self)
  cases expecting with
  | atom level =>
    rw [span_of_readAtom (eq_error_of_map h)]
    exact hplaced.head
  | operator level last =>
    rcases span_of_readOperator h with heq | ⟨group, hgroup, heq⟩ <;> rw [heq]
    · exact hplaced.head
    · exact hgroups group hgroup
  | setStart level opening =>
    simp only [readToken] at h
    split at h
    · cases h
    · exact hinSet rfl (eq_error_of_map h)
  | setRest level opening negated tests => exact hinSet rfl (eq_error_of_map h)

end Reading.Points

/-! ## Whole patterns -/

/-- An expression that is not read is blamed on a stretch of the text. -/
theorem within_of_readExpr (hpoints : reading.Points text tokens) (hplaced : Placed text tokens)
    (h : readExpr compile reading tokens = .error e) : e.span.Within text := by
  induction tokens generalizing reading with
  | nil =>
    cases h
    exact Span.within_zero text
  | cons token tokens ih =>
    simp only [readExpr] at h
    split at h
    · next next hmore => exact ih (hpoints.step hplaced hmore) hplaced.tail h
    · cases h
    · next heq =>
      cases h
      exact hpoints.within_of_readToken hplaced heq

theorem Placed.of_suffix {rest : List Token} (h : Placed text tokens) (hsuffix : rest <:+ tokens) :
    Placed text rest :=
  ⟨h.inOrder.sublist hsuffix.sublist, fun token htoken => h.within token (hsuffix.subset htoken)⟩

theorem optionalToken_suffix (kind : TokenKind) (tokens : List Token) :
    (optionalToken kind tokens).2 <:+ tokens := by
  cases tokens with
  | nil => exact List.suffix_rfl
  | cons token tokens =>
    rw [optionalToken]
    split
    · exact List.suffix_cons _ _
    · exact List.suffix_rfl

/-- Tokens that are no pattern are blamed on a stretch of the text. -/
theorem within_of_parse (hplaced : Placed text tokens) (h : parse compile tokens = .error e) :
    e.span.Within text := by
  rw [parse_eq] at h
  have hinner := hplaced.of_suffix (optionalToken_suffix .caret tokens)
  rcases error_of_bind h with hbody | ⟨⟨expr, rest⟩, hbody, hend⟩
  · unfold readBody at hbody
    split at hbody
    · split at hbody
      · exact within_of_readExpr (.start _ _) hinner hbody
      · cases hbody
    · cases hbody
  · obtain ⟨_, taken, htaken, -, -⟩ := spells_of_readBody hbody
    have hsuffix : rest <:+ (optionalToken .caret tokens).2 := ⟨taken, htaken.symm⟩
    have hrest := hinner.of_suffix hsuffix
    have hback := hrest.of_suffix (optionalToken_suffix .dollar rest)
    unfold readEnd at hend
    split at hend
    · cases hend
    · next token others _ hsplit =>
      cases hend
      exact hback.within token (by rw [hsplit]; exact List.mem_cons_self)
    · cases hend
      exact Span.within_zero text

/-- If a text is cut into tokens, these cover it: they stand in it in order and between characters, each is what
the text holds in its stretch, only blanks stand between them, and an end stands at the end and nowhere
else. If the text is no pattern, the error points at a stretch of it, between characters, and can be shown:
with text around the stretch, and below it a line with a blank for each character before the stretch and a
caret for each in it, one at least. -/
theorem tokens_cover_and_errors_report (text : List Char) :
    (∀ tokens, tokenize text = .ok tokens → Covers text tokens)
    ∧ ∀ e, NamePattern.read text = .error e → ∃ before marked after lead trail,
        e.span.Cuts text before marked after ∧ lead <:+ before ∧ trail <+: after
        ∧ e.report text = some (lead ++ marked ++ trail ++ '\n'
            :: (List.replicate lead.length ' ' ++ List.replicate (max marked.length 1) '^') ++ '\n'
            :: e.message.toList) := by
  refine ⟨fun tokens => covers_of_tokenize, fun e hread => ?_⟩
  have hwithin : e.span.Within text := by
    rcases error_of_bind hread with hlexer | ⟨tokens, htokens, hparse⟩
    · exact within_of_tokenize hlexer
    · rcases error_of_bind hparse with hgrammar | ⟨parsed, -, hpattern⟩
      · exact within_of_parse (covers_of_tokenize htokens).placed hgrammar
      · cases hpattern
  obtain ⟨before, marked, after, hcuts⟩ := hwithin
  obtain ⟨lead, trail, hlead, htrail, hreport⟩ := report_eq hcuts
  exact ⟨before, marked, after, lead, trail, hcuts, hlead, htrail, hreport⟩

/-- A letter of two bytes, in a component test and where no token starts with it. -/
theorem tokens_cover_and_errors_report_wide :
    (∃ tokens, tokenize ['<', 'é', '>'] = .ok tokens ∧ Covers ['<', 'é', '>'] tokens)
      ∧ ∃ e, NamePattern.read ['<', '>', 'é'] = .error e ∧ e.span = ⟨2, 4⟩
        ∧ ∃ before marked after, e.span.Cuts ['<', '>', 'é'] before marked after := by
  have htokens :
      tokenize ['<', 'é', '>'] = .ok [⟨.component ['é'], ⟨0, 4⟩⟩, ⟨.finish, ⟨4, 4⟩⟩] := rfl
  have hread : NamePattern.read ['<', '>', 'é'] = .error ((TokenFault.stray 'é').at ⟨2, 4⟩) := rfl
  obtain ⟨hcover, -⟩ := tokens_cover_and_errors_report ['<', 'é', '>']
  obtain ⟨-, hreport⟩ := tokens_cover_and_errors_report ['<', '>', 'é']
  obtain ⟨before, marked, after, _, _, hcuts, -⟩ := hreport _ hread
  exact ⟨⟨_, htokens, hcover _ htokens⟩, _, hread, rfl, before, marked, after, hcuts⟩

end NamedData.Pattern
