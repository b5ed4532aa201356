import NamedData.Filter
import NamedData.Proofs.Matching
import NamedData.Proofs.Pattern.Written

/-!
# Filters with a pattern

A filter ties its pattern to both ends. A caret or a dollar sign that is missing is added to the text, and
is looked for as the first or the last character, not as a token. So a blank before a caret, or behind a
dollar sign, hides it: a second one is added, and the text is no pattern any more. Any other text that is a
pattern makes a filter, which accepts the names with all components below the root in the language of the
text. The tokens of a text without their offsets (`kindsFrom`) show what an added character does.
-/

namespace NamedData

namespace Pattern

/-! ## Tokens without their offsets -/

/-- The place as if what starts there started with the text. -/
def Place.atZero : Place → Place
  | between => between
  | component _ text => component 0 text
  | repetition _ text => repetition 0 text

/-- The kinds of the tokens that end with a character, and the place after it, if there is one. -/
def Place.read : Place → Char → Option (List TokenKind × Place)
  | between, c =>
    if c = '<' then some ([], component 0 [])
    else if c = '\x7b' then some ([], repetition 0 [])
    else
      match symbol? c with
      | some kind => some ([kind], between)
      | none => if Text.isBlank c then some ([], between) else none
  | component _ text, c =>
    if c = '>' then some ([.component text.reverse], between) else some ([], component 0 (c :: text))
  | repetition _ text, c =>
    if c = '\x7d' then
      match readBounds text.reverse with
      | .ok (min, max) => some ([.repetition min max], between)
      | .error _ => none
    else some ([], repetition 0 (c :: text))

/-- The kinds of the tokens of the rest of a pattern, but for its end. -/
def kindsFrom : Place → List Char → Option (List TokenKind)
  | .between, [] => some []
  | .component _ _, [] => none
  | .repetition _ _, [] => none
  | place, c :: rest => (place.read c).bind fun (kinds, next) => (kindsFrom next rest).map (kinds ++ ·)

/-- A token in front of others. -/
theorem kinds_cons {token : Token} {result : Except PatternError (List Token)}
    {kinds : Option (List TokenKind)}
    (h : result.toOption.map (List.map (·.kind)) = kinds.map (· ++ [.finish])) :
    ((token :: ·) <$> result).toOption.map (List.map (·.kind))
      = (kinds.map ([token.kind] ++ ·)).map (· ++ [.finish]) := by
  calc ((token :: ·) <$> result).toOption.map (List.map (·.kind))
      = (result.toOption.map (List.map (·.kind))).map (token.kind :: ·) := by
        rw [toOption_map, Option.map_map, Option.map_map]
        rfl
    _ = (kinds.map ([token.kind] ++ ·)).map (· ++ [.finish]) := by
        rw [h, Option.map_map, Option.map_map]
        rfl

/-- The kinds of tokens do not depend on offsets. -/
theorem kinds_tokensFrom (place : Place) (offset : Nat) (text : List Char) :
    (tokensFrom place offset text).toOption.map (List.map (·.kind))
      = (kindsFrom place.atZero text).map (· ++ [.finish]) := by
  induction text generalizing place offset with
  | nil => cases place <;> rfl
  | cons c rest ih =>
    -- a character that ends no token only leads to another place
    have hmore (place : Place) (offset : Nat) :
        (tokensFrom place offset rest).toOption.map (List.map (·.kind))
          = ((kindsFrom place.atZero rest).map ([] ++ ·)).map (· ++ [.finish]) := by
      rw [ih, Option.map_map]
      rfl
    cases place with
    | between =>
      simp only [tokensFrom, Place.atZero, kindsFrom, Place.read]
      split
      · exact hmore _ _
      · split
        · exact hmore _ _
        · cases symbol? c with
          | some kind => exact kinds_cons (ih _ _)
          | none =>
            dsimp only
            split
            · exact hmore _ _
            · rfl
    | component start before =>
      simp only [tokensFrom, Place.atZero, kindsFrom, Place.read]
      split
      · exact kinds_cons (ih _ _)
      · exact hmore _ _
    | repetition start before =>
      simp only [tokensFrom, Place.atZero, kindsFrom, Place.read]
      split
      · cases readBounds before.reverse with
        | ok bounds => exact kinds_cons (ih _ _)
        | error fault => rfl
      · exact hmore _ _

/-- A caret in front is one token more. -/
theorem kindsFrom_caret_cons (text : List Char) :
    kindsFrom .between ('^' :: text) = (kindsFrom .between text).map (.caret :: ·) :=
  rfl

/-- A dollar sign behind is one token more: where a component test or a repetition is open it stays open,
so that the text is no pattern with or without the sign. -/
theorem kindsFrom_append_dollar (place : Place) (text : List Char) :
    kindsFrom place (text ++ ['$']) = (kindsFrom place text).map (· ++ [.dollar]) := by
  induction text generalizing place with
  | nil => cases place <;> rfl
  | cons c rest ih =>
    simp only [List.cons_append, kindsFrom]
    cases place.read c with
    | none => rfl
    | some result =>
      simp only [Option.bind_some, ih, Option.map_map]
      refine congrArg (Option.map · _) (funext fun kinds => ?_)
      exact (List.append_assoc _ _ _).symm

/-! ## Sentences that are written -/

/-- No token of a phrase is a dollar sign. -/
theorem Phrase.dollar_not_mem_kinds {r : Rank} (phrase : Phrase r) : .dollar ∉ phrase.kinds := by
  induction phrase with
  | component text => simp [kinds]
  | set negated first others => cases negated <;> simp [kinds]
  | group inner ih => simp [kinds, ih]
  | bare _ ih | single _ ih | only _ ih => exact ih
  | quantified inner quantifier ih => cases quantifier <;> simp [kinds, Quantifier.kind, ih]
  | followed row item ihRow ihItem => simp [kinds, ihRow, ihItem]
  | either left right ihLeft ihRight => simp [kinds, ihLeft, ihRight]

namespace Sentence

variable {s : Sentence} {text : List Char}

theorem anchoredStart_of_caret {rest : List TokenKind} (h : s.kinds = .caret :: rest) :
    s.anchoredStart = true := by
  obtain ⟨anchoredStart, body, anchoredEnd⟩ := s
  cases anchoredStart with
  | true => rfl
  | false =>
    cases body with
    | none => cases anchoredEnd <;> cases h
    | some phrase =>
      obtain ⟨kind, others, hphrase, hstarts⟩ := phrase.kinds_ne_nil
      simp only [kinds, Option.elim_some, hphrase] at h
      cases h
      cases hstarts

theorem anchoredEnd_of_dollar {front : List TokenKind} (h : s.kinds = front ++ [.dollar] ++ [.finish]) :
    s.anchoredEnd = true := by
  obtain ⟨anchoredStart, body, anchoredEnd⟩ := s
  cases anchoredEnd with
  | true => rfl
  | false =>
    -- the dollar sign would be a token of the body
    have hmem : .dollar ∈ (if anchoredStart then [TokenKind.caret] else []) ++ body.elim [] Phrase.kinds := by
      have hfront : (if anchoredStart then [.caret] else []) ++ body.elim [] Phrase.kinds
          = front ++ [.dollar] := by
        have hall : (if anchoredStart then [.caret] else []) ++ body.elim [] Phrase.kinds ++ [.finish]
            = front ++ [.dollar] ++ [.finish] := by
          rw [← h]
          simp [kinds]
        exact List.append_cancel_right hall
      rw [hfront]
      simp
    rcases List.mem_append.1 hmem with hcaret | hbody
    · cases anchoredStart <;> simp at hcaret
    · cases body with
      | none => cases hbody
      | some phrase => exact absurd hbody phrase.dollar_not_mem_kinds

/-- The text is cut into the tokens of the sentence, and all its component tests have a meaning. -/
def IsWritten (s : Sentence) (text : List Char) : Prop :=
  ∃ kinds, kindsFrom .between text = some kinds ∧ s.kinds = kinds ++ [.finish]
    ∧ Compiles ComponentTest.compile s.kinds

theorem IsWritten.anchoredStart (h : s.IsWritten text) (hcaret : text.head? = some '^') :
    s.anchoredStart = true := by
  obtain ⟨kinds, hkinds, hs, -⟩ := h
  obtain ⟨rest, rfl⟩ := List.head?_eq_some_iff.1 hcaret
  rw [kindsFrom_caret_cons] at hkinds
  obtain ⟨others, -, rfl⟩ := Option.map_eq_some_iff.1 hkinds
  exact anchoredStart_of_caret hs

theorem IsWritten.anchoredEnd (h : s.IsWritten text) (hdollar : text.getLast? = some '$') :
    s.anchoredEnd = true := by
  obtain ⟨kinds, hkinds, hs, -⟩ := h
  obtain ⟨front, rfl⟩ := List.getLast?_eq_some_iff.1 hdollar
  rw [kindsFrom_append_dollar] at hkinds
  obtain ⟨others, -, rfl⟩ := Option.map_eq_some_iff.1 hkinds
  exact anchoredEnd_of_dollar hs

end Sentence

theorem exists_tokenize_iff {text : List Char} {all : List TokenKind} :
    (∃ tokens, tokenize text = .ok tokens ∧ all = tokens.map (·.kind)) ↔
      ∃ kinds, kindsFrom .between text = some kinds ∧ all = kinds ++ [.finish] := by
  have hkinds := kinds_tokensFrom .between 0 text
  rw [tokenize]
  constructor
  · rintro ⟨tokens, htokens, rfl⟩
    rw [htokens] at hkinds
    obtain ⟨kinds, hfrom, heq⟩ := Option.map_eq_some_iff.1 hkinds.symm
    exact ⟨kinds, hfrom, heq.symm⟩
  · rintro ⟨kinds, hfrom, rfl⟩
    rw [show Place.between.atZero = .between from rfl, hfrom] at hkinds
    obtain ⟨tokens, htokens, heq⟩ := Option.map_eq_some_iff.1 hkinds
    cases hresult : tokensFrom .between 0 text with
    | error e =>
      rw [hresult] at htokens
      cases htokens
    | ok tokens' =>
      rw [hresult] at htokens
      cases htokens
      exact ⟨tokens, rfl, heq.symm⟩

/-- A text is read as a pattern if a sentence is written in it. -/
theorem exists_read_iff {text : List Char} :
    (∃ pattern, NamePattern.read text = .ok pattern) ↔ ∃ s : Sentence, s.IsWritten text := by
  constructor
  · rintro ⟨pattern, hread⟩
    obtain ⟨tokens, htokens, hparsed⟩ := exists_of_bind_eq_ok hread
    obtain ⟨parsed, hparse, -⟩ := exists_of_bind_eq_ok hparsed
    obtain ⟨⟨s, hs⟩, hcompiles⟩ := exists_sentence_of_parse hparse
    obtain ⟨kinds, hkinds, hall⟩ := exists_tokenize_iff.1 ⟨tokens, htokens, hs⟩
    exact ⟨s, kinds, hkinds, hall, hs ▸ hcompiles⟩
  · rintro ⟨s, kinds, hkinds, hs, hcompiles⟩
    obtain ⟨tokens, htokens, hall⟩ := exists_tokenize_iff.2 ⟨kinds, hkinds, hs⟩
    obtain ⟨e, hparse, -⟩ := exists_parse ComponentTest.accepts hall hcompiles
    refine ⟨⟨text, ⟨s.anchoredStart, s.anchoredEnd, e⟩⟩, ?_⟩
    rw [NamePattern.read, htokens]
    change ((fun parsed => (⟨text, parsed⟩ : NamePattern)) <$> parse ComponentTest.compile tokens) = _
    rw [hparse]
    rfl

/-- What is read of a text has the anchors and the language of a sentence that is written in it. -/
theorem Sentence.IsWritten.means {s : Sentence} {text : List Char} {pattern : NamePattern}
    (hs : s.IsWritten text) (hread : NamePattern.read text = .ok pattern) :
    pattern.meaning.anchoredStart = s.anchoredStart ∧ pattern.meaning.anchoredEnd = s.anchoredEnd
      ∧ pattern.meaning.expr.language (Selector.language ComponentTest.accepts)
        = s.language ComponentTest.compile ComponentTest.accepts
      ∧ ∀ components, pattern.accepts components = true ↔
        ∃ p q, (p ≤ q ∧ q ≤ components.length
            ∧ components.extract p q ∈ s.language ComponentTest.compile ComponentTest.accepts)
          ∧ (s.anchoredStart = true → p = 0) ∧ (s.anchoredEnd = true → q = components.length) := by
  obtain ⟨kinds, hkinds, hall, -⟩ := hs
  obtain ⟨tokens, htokens, hs⟩ := exists_tokenize_iff.2 ⟨kinds, hkinds, hall⟩
  obtain ⟨tokens', htokens', hparsed⟩ := exists_of_bind_eq_ok hread
  cases htokens.symm.trans htokens'
  obtain ⟨parsed, hparse, hpattern⟩ := exists_of_bind_eq_ok hparsed
  cases hpattern
  obtain ⟨hstart, hend, hlanguage, haccepts⟩ := means_of_parse ComponentTest.accepts hparse hs
  exact ⟨hstart, hend, hlanguage, haccepts (hs ▸ (lexed_of_tokensFrom htokens).boundsInOrder)⟩

end Pattern

/-! ## Anchors that are added -/

namespace Filter

open Pattern

variable {text : List Char}

theorem head?_anchored (text : List Char) : (anchored text).head? = some '^' := by
  by_cases hcaret : text.head? = some '^'
  · rw [anchored, if_pos hcaret, List.nil_append, List.head?_append, hcaret]
    rfl
  · rw [anchored, if_neg hcaret]
    rfl

theorem getLast?_anchored (text : List Char) : (anchored text).getLast? = some '$' := by
  by_cases hdollar : text.getLast? = some '$'
  · rw [anchored, if_pos hdollar, List.append_nil, List.getLast?_append, hdollar]
    rfl
  · rw [anchored, if_neg hdollar]
    exact List.getLast?_concat

/-- The tokens of a text with the anchors that are added. -/
theorem kindsFrom_anchored (text : List Char) : kindsFrom .between (anchored text)
    = (kindsFrom .between text).map fun kinds =>
      (if text.head? = some '^' then [] else [.caret]) ++ kinds
        ++ (if text.getLast? = some '$' then [] else [.dollar]) := by
  have hfront : kindsFrom .between ((if text.head? = some '^' then [] else ['^']) ++ text)
      = (kindsFrom .between text).map ((if text.head? = some '^' then [] else [.caret]) ++ ·) := by
    by_cases hcaret : text.head? = some '^'
    · simp [hcaret]
    · rw [if_neg hcaret, if_neg hcaret]
      rfl
  have hback (front : List Char) :
      kindsFrom .between (front ++ (if text.getLast? = some '$' then [] else ['$']))
        = (kindsFrom .between front).map (· ++ (if text.getLast? = some '$' then [] else [.dollar])) := by
    by_cases hdollar : text.getLast? = some '$'
    · simp [hdollar]
    · rw [if_neg hdollar, if_neg hdollar]
      exact kindsFrom_append_dollar _ _
  rw [anchored, hback, hfront, Option.map_map]
  rfl

/-- The anchors that a sentence lacks, put around its tokens. -/
theorem kinds_anchored_iff {start stop : Bool} {body : Option (Phrase .alternatives)}
    {kinds : List TokenKind} :
    Sentence.kinds ⟨true, body, true⟩
        = (if start then [] else [.caret]) ++ kinds ++ (if stop then [] else [.dollar]) ++ [.finish] ↔
      Sentence.kinds ⟨start, body, stop⟩ = kinds ++ [.finish] := by
  have hsplit (start stop : Bool) : Sentence.kinds ⟨start, body, stop⟩
      = (if start then [.caret] else []) ++ body.elim [] Phrase.kinds ++ (if stop then [.dollar] else [])
        ++ [.finish] := by
    simp [Sentence.kinds]
  have hall : [.caret] ++ body.elim [] Phrase.kinds ++ [.dollar]
      = (if start then [] else [.caret])
        ++ ((if start then [.caret] else []) ++ body.elim [] Phrase.kinds ++ (if stop then [.dollar] else []))
        ++ (if stop then [] else [.dollar]) := by
    cases start <;> cases stop <;> simp
  rw [hsplit, hsplit, if_pos rfl, if_pos rfl, hall]
  simp only [List.append_cancel_right_eq, List.append_cancel_left_eq]

/-- With the anchors added a sentence with both anchors is written if in the text itself one is written
that has the anchors which the text starts and ends with. -/
theorem isWritten_anchored_iff {body : Option (Phrase .alternatives)} :
    Sentence.IsWritten ⟨true, body, true⟩ (anchored text) ↔
      Sentence.IsWritten ⟨text.head? = some '^', body, text.getLast? = some '$'⟩ text := by
  unfold Sentence.IsWritten
  simp only [kindsFrom_anchored, compiles_sentence_iff, Option.map_eq_some_iff]
  constructor
  · rintro ⟨_, ⟨kinds, hkinds, rfl⟩, hs, hcompiles⟩
    refine ⟨kinds, hkinds, kinds_anchored_iff.1 ?_, hcompiles⟩
    simpa only [decide_eq_true_eq] using hs
  · rintro ⟨kinds, hkinds, hs, hcompiles⟩
    refine ⟨_, ⟨kinds, hkinds, rfl⟩, ?_, hcompiles⟩
    simpa only [decide_eq_true_eq] using kinds_anchored_iff.2 hs

/-- Whatever is written with the anchors added has both. -/
theorem exists_isWritten_anchored_iff :
    (∃ s : Sentence, s.IsWritten (anchored text)) ↔ ∃ s : Sentence, s.IsWritten text
      ∧ (s.anchoredStart = true → text.head? = some '^')
      ∧ (s.anchoredEnd = true → text.getLast? = some '$') := by
  constructor
  · rintro ⟨s, hs⟩
    have hstart := hs.anchoredStart (head?_anchored text)
    have hend := hs.anchoredEnd (getLast?_anchored text)
    obtain ⟨anchoredStart, body, anchoredEnd⟩ := s
    cases hstart
    cases hend
    exact ⟨_, isWritten_anchored_iff.1 hs, of_decide_eq_true, of_decide_eq_true⟩
  · rintro ⟨s, hs, hstart, hend⟩
    have hcaret : s.anchoredStart = decide (text.head? = some '^') :=
      Bool.eq_iff_iff.2 ⟨fun h => decide_eq_true (hstart h), fun h => hs.anchoredStart (of_decide_eq_true h)⟩
    have hdollar : s.anchoredEnd = decide (text.getLast? = some '$') :=
      Bool.eq_iff_iff.2 ⟨fun h => decide_eq_true (hend h), fun h => hs.anchoredEnd (of_decide_eq_true h)⟩
    obtain ⟨anchoredStart, body, anchoredEnd⟩ := s
    cases hcaret
    cases hdollar
    exact ⟨_, isWritten_anchored_iff.2 hs⟩

/-- A pattern that is read of a text with the anchors added accepts what is all in the language of the
pattern that is read of the text itself. -/
theorem accepts_anchored_iff {inner outer : NamePattern} (hinner : NamePattern.read text = .ok inner)
    (houter : NamePattern.read (anchored text) = .ok outer) (components : List Component) :
    outer.accepts components = true ↔
      components ∈ inner.meaning.expr.language (Selector.language ComponentTest.accepts) := by
  obtain ⟨s, hs⟩ := exists_read_iff.1 ⟨outer, houter⟩
  obtain ⟨-, -, -, haccepts⟩ := hs.means houter
  have hstart := hs.anchoredStart (head?_anchored text)
  have hend := hs.anchoredEnd (getLast?_anchored text)
  obtain ⟨anchoredStart, body, anchoredEnd⟩ := s
  cases hstart
  cases hend
  obtain ⟨-, -, hlanguage, -⟩ := (isWritten_anchored_iff.1 hs).means hinner
  rw [haccepts, hlanguage]
  have hwhole : components.extract 0 components.length = components := by
    rw [List.extract_eq_take_drop, List.drop_zero, Nat.sub_zero, List.take_length]
  -- the language is that of the body, so that the anchors do not matter
  constructor
  · rintro ⟨p, q, ⟨-, -, hword⟩, hp, hq⟩
    rw [hp rfl, hq rfl, hwhole] at hword
    exact hword
  · intro hword
    exact ⟨0, components.length, ⟨Nat.zero_le _, Nat.le_refl _, hwhole.symm ▸ hword⟩, fun _ => rfl,
      fun _ => rfl⟩

/-- A text makes a filter if and only if it is a pattern and its anchors, as far as it has them, are its
first and its last character. The filter accepts the names under the root whose other components, all
together, are in the language of the pattern, whatever anchors that has. -/
theorem withPattern_iff (root : Name) (text : List Char) :
    ((∃ filter, withPattern root text = .ok filter) ↔ ∃ pattern, NamePattern.read text = .ok pattern
      ∧ (pattern.meaning.anchoredStart = true → text.head? = some '^')
      ∧ (pattern.meaning.anchoredEnd = true → text.getLast? = some '$'))
    ∧ ∀ filter pattern, withPattern root text = .ok filter → NamePattern.read text = .ok pattern →
      ∀ name, filter.accepts name = true ↔ root.components <+: name.components
        ∧ name.components.drop root.length
          ∈ pattern.meaning.expr.language (Selector.language ComponentTest.accepts) := by
  constructor
  · have hfilter : (∃ filter, withPattern root text = .ok filter) ↔
        ∃ pattern, NamePattern.read (anchored text) = .ok pattern := by
      constructor
      · rintro ⟨filter, h⟩
        obtain ⟨pattern, hread, -⟩ := exists_of_bind_eq_ok h
        exact ⟨pattern, hread⟩
      · rintro ⟨pattern, hread⟩
        refine ⟨⟨root, some pattern⟩, ?_⟩
        rw [withPattern, hread]
        rfl
    rw [hfilter, exists_read_iff, exists_isWritten_anchored_iff]
    constructor
    · rintro ⟨s, hs, hstart, hend⟩
      obtain ⟨pattern, hread⟩ := exists_read_iff.2 ⟨s, hs⟩
      obtain ⟨hcaret, hdollar, -, -⟩ := hs.means hread
      exact ⟨pattern, hread, hcaret ▸ hstart, hdollar ▸ hend⟩
    · rintro ⟨pattern, hread, hstart, hend⟩
      obtain ⟨s, hs⟩ := exists_read_iff.1 ⟨pattern, hread⟩
      obtain ⟨hcaret, hdollar, -, -⟩ := hs.means hread
      exact ⟨s, hs, hcaret ▸ hstart, hdollar ▸ hend⟩
  · intro filter inner hmake hinner name
    obtain ⟨outer, houter, hfilter⟩ := exists_of_bind_eq_ok hmake
    cases hfilter
    show (root.isPrefixOf name && outer.accepts (name.components.drop root.length)) = true ↔ _
    rw [Bool.and_eq_true, Name.isPrefixOf_iff, accepts_anchored_iff hinner houter]

/-- A filter for the names with one component below a root. -/
theorem withPattern_iff_oneMore :
    ∃ filter, withPattern ⟨[.generic [0x61]]⟩ ['^', '<', '>'] = .ok filter
      ∧ filter.accepts ⟨[.generic [0x61], .generic [0x62]]⟩ = true
      ∧ filter.accepts ⟨[.generic [0x61], .generic [0x62], .generic [0x63]]⟩ = false := by
  have hread : NamePattern.read ['^', '<', '>']
      = .ok ⟨['^', '<', '>'], ⟨true, false, .test (.one .any)⟩⟩ := rfl
  obtain ⟨hmakes, haccepts⟩ := withPattern_iff ⟨[.generic [0x61]]⟩ ['^', '<', '>']
  obtain ⟨filter, hmake⟩ := hmakes.2 ⟨_, hread, fun _ => rfl, nofun⟩
  have hiff := haccepts filter _ hmake hread
  refine ⟨filter, hmake, (hiff _).2 ⟨⟨_, rfl⟩, .generic [0x62], rfl, rfl⟩, ?_⟩
  rw [← Bool.not_eq_true, hiff]
  rintro ⟨-, item, hword, -⟩
  cases hword

/-- With a blank before the caret it is still a pattern, but makes no filter. -/
theorem blank_before_caret :
    (∃ pattern, NamePattern.read [' ', '^', '<', '>'] = .ok pattern)
      ∧ ∃ e, withPattern ⟨[.generic [0x61]]⟩ [' ', '^', '<', '>'] = .error e :=
  ⟨⟨⟨_, ⟨true, false, .test (.one .any)⟩⟩, rfl⟩, _, rfl⟩

end Filter

end NamedData
