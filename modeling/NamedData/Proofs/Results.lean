/-!
# Results

What is known of the parts of a computation that gives a value or an error, once it has given one.
-/

namespace NamedData

variable {ε α β : Type}

/-- Equality of options can be decided, that of results cannot. -/
theorem eq_ok_of_toOption {result : Except ε α} {a : α} (h : result.toOption = some a) :
    result = .ok a := by
  cases result with
  | error e => cases h
  | ok b =>
    cases h
    rfl

theorem toOption_map (f : α → β) (result : Except ε α) :
    (f <$> result).toOption = result.toOption.map f := by
  cases result <;> rfl

theorem exists_of_map_eq_ok {f : α → β} {result : Except ε α} {b : β} (h : f <$> result = .ok b) :
    ∃ a, result = .ok a ∧ f a = b := by
  cases result with
  | error e => cases h
  | ok a =>
    cases h
    exact ⟨a, rfl, rfl⟩

theorem eq_error_of_map {f : α → β} {result : Except ε α} {e : ε} (h : f <$> result = .error e) :
    result = .error e := by
  cases result with
  | error e' =>
    cases h
    rfl
  | ok a => cases h

theorem exists_of_bind_eq_ok {result : Except ε α} {next : α → Except ε β} {b : β}
    (h : result >>= next = .ok b) : ∃ a, result = .ok a ∧ next a = .ok b := by
  cases result with
  | error e => cases h
  | ok a => exact ⟨a, rfl, h⟩

/-- The first computation fails, or the second one on its value. -/
theorem error_of_bind {result : Except ε α} {next : α → Except ε β} {e : ε} (h : result >>= next = .error e) :
    result = .error e ∨ ∃ a, result = .ok a ∧ next a = .error e := by
  cases result with
  | error e' =>
    cases h
    exact .inl rfl
  | ok a => exact .inr ⟨a, rfl, h⟩

end NamedData
