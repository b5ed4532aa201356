import NamedData.Proofs.Pattern.Grammar

/-!
# Patterns that are written

Tokens that are cut from a text end with the end of the pattern, which stands nowhere else, and the bounds of
their repetitions are in order (`lexed_of_tokensFrom`). So what a written pattern accepts is told by its
sentence alone.
-/

namespace NamedData.Pattern

variable {tokens : List Token} {text : List Char}

/-! ## Bounds -/

/-- The bounds, once the lower one is known. -/
def readUpper (high : List Char) (min : Nat) : Except TokenFault (Nat × Option Nat) := do
  if Text.trim high = [] then return (min, none)
  let max ← readCount high
  if max < min then throw (.reversedBounds max min)
  return (min, some max)

theorem readBounds_eq (text : List Char) : readBounds text =
    match Text.splitOnce ',' text with
    | none => (fun n => (n, some n)) <$> readCount text
    | some (low, high) => (if Text.trim low = [] then .ok 0 else readCount low) >>= readUpper high := by
  unfold readBounds
  cases Text.splitOnce ',' text with
  | none => cases readCount text <;> rfl
  | some parts =>
    by_cases hlow : Text.trim parts.1 = []
    · simp only [hlow, if_true]
      rfl
    · simp only [hlow, if_false]
      rfl

theorem le_of_readUpper {high : List Char} {low min : Nat} {max : Option Nat}
    (h : readUpper high low = .ok (min, max)) : ∀ most ∈ max, min ≤ most := by
  unfold readUpper at h
  split at h
  · cases h
    nofun
  · obtain ⟨n, -, hbounds⟩ := exists_of_bind_eq_ok h
    split at hbounds
    · cases hbounds
    · next horder =>
      cases hbounds
      rintro most ⟨⟩
      exact Nat.le_of_not_lt horder

/-- The bounds of a repetition that is read are in order. -/
theorem le_of_readBounds {min : Nat} {max : Option Nat} (h : readBounds text = .ok (min, max)) :
    ∀ most ∈ max, min ≤ most := by
  rw [readBounds_eq] at h
  split at h
  · obtain ⟨n, -, hboth⟩ := exists_of_map_eq_ok h
    cases hboth
    rintro most ⟨⟩
    exact Nat.le_refl _
  · obtain ⟨n, -, hupper⟩ := exists_of_bind_eq_ok h
    exact le_of_readUpper hupper

/-! ## Tokens -/

/-- The bounds of repetitions are in order, and the end stands at the end and nowhere else. -/
inductive Lexed : List Token → Prop where
  | finish (span : Span) : Lexed [⟨.finish, span⟩]
  | cons {token : Token} {tokens : List Token} (hkind : token.kind ≠ .finish)
    (hbounds : BoundsInOrder [token.kind]) (hrest : Lexed tokens) : Lexed (token :: tokens)

theorem Lexed.boundsInOrder (h : Lexed tokens) : BoundsInOrder (tokens.map (·.kind)) := by
  induction h with
  | finish => simp [BoundsInOrder]
  | cons _ hbounds _ ih => exact BoundsInOrder.append_iff.2 ⟨hbounds, ih⟩

theorem lexed_symbol {c : Char} {kind : TokenKind} {span : Span} (hsymbol : symbol? c = some kind)
    (h : Lexed tokens) : Lexed (⟨kind, span⟩ :: tokens) := by
  have hother : kind ≠ .finish ∧ ∀ min max, kind ≠ .repetition min max := by
    unfold symbol? at hsymbol
    split at hsymbol
    all_goals cases hsymbol <;> exact ⟨nofun, nofun⟩
  refine .cons hother.1 (fun min most hmem => ?_) h
  exact absurd (List.mem_singleton.1 hmem).symm (hother.2 _ _)

theorem lexed_of_tokensFrom {place : Place} {offset : Nat} (h : tokensFrom place offset text = .ok tokens) :
    Lexed tokens := by
  induction text generalizing place offset tokens with
  | nil =>
    cases place with
    | between =>
      cases h
      exact .finish _
    | component | repetition => cases h
  | cons c rest ih =>
    cases place with
    | between =>
      simp only [tokensFrom] at h
      split at h
      · exact ih h
      · split at h
        · exact ih h
        · split at h
          · next kind hsymbol =>
            obtain ⟨others, hothers, rfl⟩ := exists_of_map_eq_ok h
            exact lexed_symbol hsymbol (ih hothers)
          · split at h
            · exact ih h
            · cases h
    | component start before =>
      simp only [tokensFrom] at h
      split at h
      · obtain ⟨others, hothers, rfl⟩ := exists_of_map_eq_ok h
        exact .cons (by simp) (by simp [BoundsInOrder]) (ih hothers)
      · exact ih h
    | repetition start before =>
      simp only [tokensFrom] at h
      split at h
      · split at h
        · next min max hread =>
          obtain ⟨others, hothers, rfl⟩ := exists_of_map_eq_ok h
          refine .cons (by simp) (fun low high hmem => ?_) (ih hothers)
          cases List.mem_singleton.1 hmem
          exact le_of_readBounds hread _ rfl
        · cases h
      · exact ih h

end NamedData.Pattern
