import NamedData.Proofs.Pattern.Stretches
import NamedData.Proofs.Pattern.Written

/-!
# Tokens cover their text

A text that is cut into tokens is a row of their lexemes with blanks between them (`Lexes`), so that each token
stands where its stretch says and nothing but blanks is left out (`Covers`). Where a text cannot be cut, the
error points at a stretch of it (`within_of_tokenize`). Both follow from what the lexer makes of one character
(`Place.Step`).
-/

namespace NamedData.Pattern

variable {text : List Char} {tokens : List Token} {offset : Nat}

/-- The text that a token stands for. -/
def TokenKind.IsWritten : TokenKind → List Char → Prop
  | component text, lexeme => lexeme = '<' :: text ++ ['>'] ∧ '>' ∉ text
  | repetition min max, lexeme =>
    (∃ bounds, lexeme = '\x7b' :: bounds ++ ['\x7d'] ∧ '\x7d' ∉ bounds ∧ readBounds bounds = .ok (min, max))
      ∧ ∀ most ∈ max, min ≤ most
  | finish, lexeme => lexeme = []
  | symbol, lexeme => ∃ c, lexeme = [c] ∧ symbol? c = some symbol

/-- A text that starts at an offset is a row of lexemes, with these tokens and with blanks between them. -/
inductive Lexes : (offset : Nat) → List Char → List Token → Prop where
  | finish {offset : Nat} {blanks : List Char} (hblanks : ∀ c ∈ blanks, Text.isBlank c = true) :
    Lexes offset blanks [⟨.finish, ⟨offset + byteLength blanks, offset + byteLength blanks⟩⟩]
  | token {offset : Nat} {blanks lexeme rest : List Char} {kind : TokenKind} {tokens : List Token}
    (hblanks : ∀ c ∈ blanks, Text.isBlank c = true) (hkind : kind ≠ .finish) (hlexeme : kind.IsWritten lexeme)
    (hrest : Lexes (offset + byteLength (blanks ++ lexeme)) rest tokens) :
    Lexes offset (blanks ++ lexeme ++ rest)
      (⟨kind, ⟨offset + byteLength blanks, offset + byteLength (blanks ++ lexeme)⟩⟩ :: tokens)

/-! ## What the lexer reads -/

/-- What has been read of a token that is not complete. -/
def Place.pending : Place → List Char
  | between => []
  | component _ text => '<' :: text.reverse
  | repetition _ text => '\x7b' :: text.reverse

/-- A token that is not complete starts where the place says, and its end has not been read. -/
def Place.Pends : Place → (offset : Nat) → Prop
  | between, _ => True
  | component start text, offset => offset = start + byteLength ('<' :: text.reverse) ∧ '>' ∉ text
  | repetition start text, offset => offset = start + byteLength ('\x7b' :: text.reverse) ∧ '\x7d' ∉ text

section Pends

variable {c : Char} {start : Nat} {before : List Char}

theorem Place.pends_between (offset : Nat) : between.Pends offset :=
  trivial

theorem Place.pends_openComponent (offset : Nat) : (component offset []).Pends (offset + '<'.utf8Size) :=
  ⟨by simp, List.not_mem_nil⟩

theorem Place.pends_openRepetition (offset : Nat) : (repetition offset []).Pends (offset + '\x7b'.utf8Size) :=
  ⟨by simp, List.not_mem_nil⟩

theorem Place.pends_component (h : (component start before).Pends offset) (hc : c ≠ '>') :
    (component start (c :: before)).Pends (offset + c.utf8Size) := by
  obtain ⟨hoffset, hopen⟩ := h
  exact ⟨by simp [hoffset]; omega, by simp [Ne.symm hc, hopen]⟩

theorem Place.pends_repetition (h : (repetition start before).Pends offset) (hc : c ≠ '\x7d') :
    (repetition start (c :: before)).Pends (offset + c.utf8Size) := by
  obtain ⟨hoffset, hopen⟩ := h
  exact ⟨by simp [hoffset]; omega, by simp [Ne.symm hc, hopen]⟩

end Pends

/-- The offset at which what has been read of a token starts. -/
def Place.start : Place → (offset : Nat) → Nat
  | between, offset => offset
  | component start _, _ => start
  | repetition start _, _ => start

/-- A blank may stand in front. -/
theorem Lexes.cons_blank {c : Char} (hc : Text.isBlank c = true) (h : Lexes (offset + c.utf8Size) text tokens) :
    Lexes offset (c :: text) tokens := by
  have hblank {blanks : List Char} (hblanks : ∀ b ∈ blanks, Text.isBlank b = true) :
      ∀ b ∈ c :: blanks, Text.isBlank b = true := by
    intro b hb
    rcases List.mem_cons.1 hb with rfl | hb
    · exact hc
    · exact hblanks b hb
  cases h with
  | finish hblanks =>
    have hfinish : Lexes offset _ _ := .finish (hblank hblanks)
    rwa [byteLength_cons, ← Nat.add_assoc] at hfinish
  | @token _ blanks lexeme rest kind tokens hblanks hkind hlexeme hrest =>
    have hlength : offset + c.utf8Size + byteLength (blanks ++ lexeme)
        = offset + byteLength (c :: blanks ++ lexeme) := by
      rw [List.cons_append, byteLength_cons, Nat.add_assoc]
    rw [hlength] at hrest ⊢
    have htoken := Lexes.token (hblank hblanks) hkind hlexeme hrest
    rwa [byteLength_cons, ← Nat.add_assoc] at htoken

/-- A token without blanks in front, whose last character is `last`. -/
theorem Lexes.lexeme (lead : List Char) {rest : List Char} {last : Char} {kind : TokenKind} {start : Nat}
    (hkind : kind ≠ .finish) (hlexeme : kind.IsWritten (lead ++ [last]))
    (hoffset : offset = start + byteLength lead)
    (h : Lexes (offset + last.utf8Size) rest tokens) :
    Lexes start (lead ++ last :: rest) (⟨kind, ⟨start, offset + last.utf8Size⟩⟩ :: tokens) := by
  have hnext : offset + last.utf8Size = start + byteLength ([] ++ (lead ++ [last])) := by
    simp [hoffset, Nat.add_assoc]
  rw [hnext] at h ⊢
  have htoken := Lexes.token (fun _ hc => absurd hc List.not_mem_nil) hkind hlexeme h
  simpa using htoken

theorem isWritten_symbol {c : Char} {kind : TokenKind} (h : symbol? c = some kind) :
    kind ≠ .finish ∧ kind.IsWritten [c] := by
  unfold symbol? at h
  split at h
  all_goals cases h <;> exact ⟨nofun, _, rfl, rfl⟩

/-- What has been read of a token ends where the place says. -/
theorem Place.Pends.offset_eq {place : Place} (h : place.Pends offset) :
    offset = place.start offset + byteLength place.pending := by
  cases place with
  | between => rfl
  | component | repetition => exact h.1

/-- What the lexer makes of a character and of the rest behind it: the token goes on, or starts, with it, or it
is a blank, or a token ends with it, or no token can. -/
inductive Place.Step (place : Place) (offset : Nat) (c : Char) (rest : List Char) :
    Except PatternError (List Token) → Prop where
  | pends (next : Place) (hnext : next.Pends (offset + c.utf8Size))
    (hstart : next.start (offset + c.utf8Size) = place.start offset)
    (hpending : next.pending = place.pending ++ [c]) :
    Step place offset c rest (tokensFrom next (offset + c.utf8Size) rest)
  | blank (hbetween : place = .between) (hblank : Text.isBlank c = true) :
    Step place offset c rest (tokensFrom .between (offset + c.utf8Size) rest)
  | ends (kind : TokenKind) (hkind : kind ≠ .finish) (hlexeme : kind.IsWritten (place.pending ++ [c])) :
    Step place offset c rest
      ((⟨kind, ⟨place.start offset, offset + c.utf8Size⟩⟩ :: ·)
        <$> tokensFrom .between (offset + c.utf8Size) rest)
  | faults (fault : TokenFault) :
    Step place offset c rest (.error (fault.at ⟨place.start offset, offset + c.utf8Size⟩))

theorem Place.step {place : Place} (hplace : place.Pends offset) (c : Char) (rest : List Char) :
    place.Step offset c rest (tokensFrom place offset (c :: rest)) := by
  cases place with
  | between =>
    simp only [tokensFrom]
    split
    · next hopen =>
      subst hopen
      exact .pends _ (Place.pends_openComponent offset) rfl rfl
    · split
      · next hopen =>
        subst hopen
        exact .pends _ (Place.pends_openRepetition offset) rfl rfl
      · split
        · next kind hsymbol =>
          obtain ⟨hkind, hlexeme⟩ := isWritten_symbol hsymbol
          exact .ends kind hkind hlexeme
        · split
          · next hblank => exact .blank rfl hblank
          · exact .faults _
  | component start before =>
    simp only [tokensFrom]
    split
    · next hclose =>
      subst hclose
      have hlexeme : (TokenKind.component before.reverse).IsWritten ('<' :: before.reverse ++ ['>']) :=
        ⟨rfl, by simpa using hplace.2⟩
      exact .ends _ (by simp) hlexeme
    · next hclose => exact .pends _ (Place.pends_component hplace hclose) rfl (by simp [pending])
  | repetition start before =>
    simp only [tokensFrom]
    split
    · next hclose =>
      subst hclose
      split
      · next min max hread =>
        have hlexeme : (TokenKind.repetition min max).IsWritten ('\x7b' :: before.reverse ++ ['\x7d']) :=
          ⟨⟨before.reverse, rfl, by simpa using hplace.2, hread⟩, le_of_readBounds hread⟩
        exact .ends _ (by simp) hlexeme
      · exact .faults _
    · next hclose => exact .pends _ (Place.pends_repetition hplace hclose) rfl (by simp [pending])

/-- What has been read of a token and the rest are the lexemes of the tokens that the lexer gives. -/
theorem lexes_of_tokensFrom {place : Place} (hplace : place.Pends offset)
    (h : tokensFrom place offset text = .ok tokens) :
    Lexes (place.start offset) (place.pending ++ text) tokens := by
  induction text generalizing place offset tokens with
  | nil =>
    cases place with
    | between =>
      cases h
      exact .finish fun _ hc => absurd hc List.not_mem_nil
    | component | repetition => cases h
  | cons c rest ih =>
    have hstep := Place.step hplace c rest
    generalize tokensFrom place offset (c :: rest) = result at h hstep
    cases hstep with
    | pends next hnext hstart hpending =>
      have hmore := ih hnext h
      rwa [hstart, hpending, List.append_assoc] at hmore
    | blank hbetween hblank =>
      subst hbetween
      exact .cons_blank hblank (ih (Place.pends_between _) h)
    | ends kind hkind hlexeme =>
      obtain ⟨others, hothers, rfl⟩ := exists_of_map_eq_ok h
      exact .lexeme _ hkind hlexeme hplace.offset_eq (ih (Place.pends_between _) hothers)
    | faults => cases h

/-! ## Where the tokens stand -/

/-- Tokens stand in a text in order and with nothing but blanks around them: each is what the text holds in its
stretch. The last one is the empty stretch at the end of the text, and no other is an end. -/
structure Covers (text : List Char) (tokens : List Token) : Prop where
  inOrder : tokens.Pairwise fun a b => a.span.stop ≤ b.span.start
  written : ∀ token ∈ tokens, ∃ before lexeme after,
    token.span.Cuts text before lexeme after ∧ token.kind.IsWritten lexeme
  blank : ∀ before c after, text = before ++ c :: after →
    (∀ token ∈ tokens, byteLength before < token.span.start ∨ token.span.stop ≤ byteLength before) →
      Text.isBlank c = true
  finish : ∃ others, tokens = others ++ [⟨.finish, ⟨byteLength text, byteLength text⟩⟩]
    ∧ ∀ token ∈ others, token.kind ≠ .finish

/-- A character of two texts in a row is one of the first, or one of the second. -/
theorem split_of_append_eq {first second before after : List Char} {c : Char}
    (h : first ++ second = before ++ c :: after) :
    (∃ more, first = before ++ c :: more) ∨ ∃ more, before = first ++ more ∧ second = more ++ c :: after := by
  rcases List.append_eq_append_iff.1 h with ⟨more, hbefore, hsecond⟩ | ⟨more, hfirst, hafter⟩
  · exact .inr ⟨more, hbefore, hsecond⟩
  · cases more with
    | nil =>
      rw [List.append_nil] at hfirst
      exact .inr ⟨[], by rw [hfirst, List.append_nil], hafter.symm⟩
    | cons d more =>
      obtain ⟨rfl, rfl⟩ := List.cons.inj hafter
      exact .inl ⟨more, hfirst⟩

namespace Lexes

theorem written (h : Lexes offset text tokens) : ∀ token ∈ tokens, ∃ before lexeme after,
    token.span.CutsFrom offset text before lexeme after ∧ token.kind.IsWritten lexeme := by
  induction h with
  | @finish offset blanks hblanks =>
    intro token htoken
    obtain rfl := List.mem_singleton.1 htoken
    exact ⟨blanks, [], [], ⟨by simp, rfl, by simp⟩, rfl⟩
  | @token offset blanks lexeme rest kind tokens hblanks hkind hlexeme hrest ih =>
    intro token htoken
    rcases List.mem_cons.1 htoken with rfl | htoken
    · exact ⟨blanks, lexeme, rest, ⟨rfl, rfl, rfl⟩, hlexeme⟩
    · obtain ⟨before, lexeme', after, hcuts, hwritten⟩ := ih token htoken
      exact ⟨_, lexeme', after, hcuts.append_left, hwritten⟩

/-- No token starts before the text. -/
theorem le_start (h : Lexes offset text tokens) {token : Token} (htoken : token ∈ tokens) :
    offset ≤ token.span.start := by
  obtain ⟨before, lexeme, after, hcuts, -⟩ := h.written token htoken
  rw [hcuts.start_eq]
  exact Nat.le_add_right _ _

theorem inOrder (h : Lexes offset text tokens) : tokens.Pairwise fun a b => a.span.stop ≤ b.span.start := by
  induction h with
  | finish => exact List.pairwise_singleton _ _
  | token _ _ _ hrest ih => exact List.pairwise_cons.2 ⟨fun _ htoken => hrest.le_start htoken, ih⟩

/-- A character that stands in no token is blank. -/
theorem blank (h : Lexes offset text tokens) {before after : List Char} {c : Char}
    (htext : text = before ++ c :: after)
    (houtside : ∀ token ∈ tokens,
      offset + byteLength before < token.span.start ∨ token.span.stop ≤ offset + byteLength before) :
    Text.isBlank c = true := by
  induction h generalizing before with
  | finish hblanks => exact hblanks c (by simp [htext])
  | @token offset blanks lexeme rest kind tokens hblanks hkind hlexeme hrest ih =>
    rcases split_of_append_eq htext with ⟨more, hfirst⟩ | ⟨more, rfl, hafter⟩
    · rcases split_of_append_eq hfirst with ⟨more', rfl⟩ | ⟨more', rfl, rfl⟩
      · exact hblanks c (by simp)
      · -- the stretch of the first token goes from the blanks to the end of its lexeme
        have hpos := c.utf8Size_pos
        have hfirstOutside := houtside _ List.mem_cons_self
        simp only [byteLength_append, byteLength_cons] at hfirstOutside
        omega
    · refine ih hafter fun token htoken => ?_
      have htokenOutside := houtside token (List.mem_cons_of_mem _ htoken)
      rwa [byteLength_append, ← Nat.add_assoc] at htokenOutside

theorem exists_finish (h : Lexes offset text tokens) :
    ∃ others, tokens = others ++ [⟨.finish, ⟨offset + byteLength text, offset + byteLength text⟩⟩]
      ∧ ∀ token ∈ others, token.kind ≠ .finish := by
  induction h with
  | finish => exact ⟨[], rfl, nofun⟩
  | @token offset blanks lexeme rest kind tokens hblanks hkind hlexeme hrest ih =>
    obtain ⟨others, rfl, hothers⟩ := ih
    rw [byteLength_append _ rest, ← Nat.add_assoc]
    exact ⟨_ :: others, rfl, List.forall_mem_cons.2 ⟨hkind, hothers⟩⟩

end Lexes

/-- The tokens of a text cover it. -/
theorem covers_of_tokenize (h : tokenize text = .ok tokens) : Covers text tokens := by
  have hlexes : Lexes 0 text tokens := lexes_of_tokensFrom (Place.pends_between 0) h
  refine ⟨hlexes.inOrder, hlexes.written, fun before c after htext houtside => ?_, ?_⟩
  · exact hlexes.blank htext (by simpa only [Nat.zero_add] using houtside)
  · simpa only [Nat.zero_add] using hlexes.exists_finish

/-! ## Texts that cannot be cut -/

/-- An error of the lexer points at a stretch of what has been read of a token and the rest. -/
theorem cuts_of_tokensFrom {place : Place} {e : PatternError} (hplace : place.Pends offset)
    (h : tokensFrom place offset text = .error e) :
    ∃ before marked after, e.span.CutsFrom (place.start offset) (place.pending ++ text) before marked after := by
  induction text generalizing place offset with
  | nil =>
    cases place with
    | between => cases h
    | component start before | repetition start before =>
      cases h
      exact ⟨[], _, [], by simp; rfl, rfl, by rw [List.nil_append]; exact hplace.1⟩
  | cons c rest ih =>
    -- an error after a token or a blank is one of the whole, in front of which `lead` has been read
    have hlater {start : Nat} (lead : List Char) (hstart : offset + c.utf8Size = start + byteLength lead)
        (hrest : tokensFrom .between (offset + c.utf8Size) rest = .error e) :
        ∃ before marked after, e.span.CutsFrom start (lead ++ rest) before marked after := by
      obtain ⟨before, marked, after, hcuts⟩ := ih (Place.pends_between _) hrest
      rw [Place.start, hstart] at hcuts
      exact ⟨_, marked, after, hcuts.append_left⟩
    have hnext : offset + c.utf8Size = place.start offset + byteLength (place.pending ++ [c]) := by
      have hoffset := hplace.offset_eq
      rw [byteLength_append, byteLength_cons, byteLength_nil]
      omega
    have hstep := Place.step hplace c rest
    generalize tokensFrom place offset (c :: rest) = result at h hstep
    cases hstep with
    | pends next hpends hstart hpending =>
      have hmore := ih hpends h
      rwa [hstart, hpending, List.append_assoc] at hmore
    | blank hbetween =>
      subst hbetween
      exact hlater [c] hnext h
    | ends =>
      rw [← List.singleton_append, ← List.append_assoc]
      exact hlater _ hnext (eq_error_of_map h)
    | faults =>
      cases h
      exact ⟨[], place.pending ++ [c], rest, by simp, rfl, hnext⟩

/-- Where a text cannot be cut into tokens, the error points at a stretch of it. -/
theorem within_of_tokenize {e : PatternError} (h : tokenize text = .error e) : e.span.Within text :=
  cuts_of_tokensFrom (Place.pends_between 0) h

end NamedData.Pattern
