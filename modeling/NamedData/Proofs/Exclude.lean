import NamedData.Packet.Exclude

/-!
# The components that an exclude covers

The walk over the entries looks one component back and one ahead. What it decides is about whole runs of
`any`s (`AnyRun`): a component is excluded if it is an entry, or lies between the components around a run.
The entries that the walk has passed matter only through the component just before the rest
(`Excluded`), so it goes by cases on the rest, where a run may be shortened to its last `any`.
-/

namespace NamedData

/-- The component of an entry, if it is one. -/
def ExcludeEntry.component? : ExcludeEntry → Option Component
  | any => none
  | component c => some c

/-- The entries are a run of `any`s, which is as long as it goes, with these before and after it. -/
structure AnyRun (entries before after : List ExcludeEntry) : Prop where
  run : ∃ more, entries = before ++ (List.replicate (more + 1) .any ++ after)
  not_before : before.getLast? ≠ some .any
  not_after : after.head? ≠ some .any

namespace AnyRun

variable {entries before after : List ExcludeEntry} {d : Component}

theorem ne_nil (h : AnyRun entries before after) : entries ≠ [] := by
  obtain ⟨⟨more, rfl⟩, -, -⟩ := h
  simp [List.replicate_succ]

/-- A run behind a component is one without it. -/
theorem component_cons_iff : AnyRun (.component d :: entries) before after ↔
    ∃ others, before = .component d :: others ∧ AnyRun entries others after := by
  constructor
  · rintro ⟨⟨more, h⟩, hbefore, hafter⟩
    cases before with
    | nil => cases h
    | cons entry others =>
      obtain ⟨rfl, rfl⟩ := List.cons.inj h
      refine ⟨others, rfl, ⟨more, rfl⟩, fun hlast => hbefore ?_, hafter⟩
      rw [List.getLast?_cons, hlast]
      rfl
  · rintro ⟨others, rfl, ⟨more, rfl⟩, hbefore, hafter⟩
    refine ⟨⟨more, rfl⟩, ?_, hafter⟩
    rw [List.getLast?_cons]
    cases hlast : others.getLast? with
    | none => simp
    | some entry =>
      rw [hlast] at hbefore
      exact hbefore

/-- A run that starts with its first `any` goes on with the entries behind that, if it goes on. -/
theorem any_cons_nil_iff : AnyRun (.any :: entries) [] after ↔
    after.head? ≠ some .any ∧ (entries = after ∨ AnyRun entries [] after) := by
  constructor
  · rintro ⟨⟨more, h⟩, -, hafter⟩
    refine ⟨hafter, ?_⟩
    obtain ⟨-, rfl⟩ := List.cons.inj h
    cases more with
    | zero => exact .inl rfl
    | succ more => exact .inr ⟨⟨more, rfl⟩, nofun, hafter⟩
  · rintro ⟨hafter, rfl | ⟨⟨more, rfl⟩, -, -⟩⟩
    · exact ⟨⟨0, rfl⟩, nofun, hafter⟩
    · exact ⟨⟨more + 1, rfl⟩, nofun, hafter⟩

/-- A run that starts later is one of the entries behind an `any`. -/
theorem any_cons_cons_iff {entry : ExcludeEntry} {others : List ExcludeEntry} :
    AnyRun (.any :: entries) (entry :: others) after ↔
      entry = .any ∧ others ≠ [] ∧ AnyRun entries others after := by
  constructor
  · rintro ⟨⟨more, h⟩, hbefore, hafter⟩
    obtain ⟨rfl, rfl⟩ := List.cons.inj h
    cases others with
    | nil => exact absurd rfl hbefore
    | cons first others => exact ⟨rfl, List.cons_ne_nil _ _, ⟨more, rfl⟩, hbefore, hafter⟩
  · rintro ⟨rfl, hne, ⟨more, rfl⟩, hbefore, hafter⟩
    refine ⟨⟨more, rfl⟩, ?_, hafter⟩
    rwa [List.getLast?_cons_of_ne_nil hne]

end AnyRun

namespace Exclude

variable {c d : Component} {last : Option Component} {rest before : List ExcludeEntry}

/-- The component just before what follows these entries, which themselves follow the component `last`,
or none. -/
def lastComponent (last : Option Component) (before : List ExcludeEntry) : Option Component :=
  before.getLast?.elim last ExcludeEntry.component?

theorem lastComponent_cons (entry : ExcludeEntry) :
    lastComponent last (entry :: before) = lastComponent entry.component? before := by
  unfold lastComponent
  rw [List.getLast?_cons]
  cases before.getLast? <;> rfl

/-- With entries in between, it does not matter what stands before them. -/
theorem lastComponent_of_ne_nil (h : before ≠ []) (other : Option Component) :
    lastComponent other before = lastComponent last before := by
  cases before with
  | nil => exact absurd rfl h
  | cons entry others => rw [lastComponent_cons, lastComponent_cons]

/-- A component lies between those around a run of `any`s. -/
def Covered (c : Component) (last : Option Component) (entries : List ExcludeEntry) : Prop :=
  ∃ before after, AnyRun entries before after ∧ isAbove (lastComponent last before) c = true
    ∧ ∀ d, after.head? = some (.component d) → c.lt d = true

theorem not_covered_nil : ¬ Covered c last [] := by
  rintro ⟨before, after, hrun, -⟩
  exact hrun.ne_nil rfl

theorem covered_component_iff : Covered c last (.component d :: rest) ↔ Covered c (some d) rest := by
  constructor
  · rintro ⟨before, after, hrun, habove, hbelow⟩
    obtain ⟨others, rfl, hothers⟩ := AnyRun.component_cons_iff.1 hrun
    rw [lastComponent_cons] at habove
    exact ⟨others, after, hothers, habove, hbelow⟩
  · rintro ⟨others, after, hothers, habove, hbelow⟩
    refine ⟨.component d :: others, after, AnyRun.component_cons_iff.2 ⟨others, rfl, hothers⟩, ?_, hbelow⟩
    rw [lastComponent_cons]
    exact habove

/-- A component is covered by the run that starts here, or by a later one. -/
theorem covered_any_iff : Covered c last (.any :: rest) ↔
    (∃ after, AnyRun (.any :: rest) [] after ∧ isAbove last c = true
        ∧ ∀ d, after.head? = some (.component d) → c.lt d = true)
      ∨ ∃ before after, before ≠ [] ∧ AnyRun rest before after ∧ isAbove (lastComponent last before) c = true
        ∧ ∀ d, after.head? = some (.component d) → c.lt d = true := by
  constructor
  · rintro ⟨before, after, hrun, habove, hbelow⟩
    cases before with
    | nil => exact .inl ⟨after, hrun, habove, hbelow⟩
    | cons entry others =>
      obtain ⟨rfl, hne, hothers⟩ := AnyRun.any_cons_cons_iff.1 hrun
      rw [lastComponent_cons, lastComponent_of_ne_nil hne] at habove
      exact .inr ⟨others, after, hne, hothers, habove, hbelow⟩
  · rintro (⟨after, hrun, habove, hbelow⟩ | ⟨others, after, hne, hothers, habove, hbelow⟩)
    · exact ⟨[], after, hrun, habove, hbelow⟩
    · refine ⟨.any :: others, after, AnyRun.any_cons_cons_iff.2 ⟨rfl, hne, hothers⟩, ?_, hbelow⟩
      rw [lastComponent_cons, lastComponent_of_ne_nil hne]
      exact habove

/-- A run at the end has no bound above. -/
theorem covered_any_nil_iff : Covered c last [.any] ↔ isAbove last c = true := by
  rw [covered_any_iff]
  constructor
  · rintro (⟨after, -, habove, -⟩ | ⟨before, after, -, hrun, -⟩)
    · exact habove
    · exact absurd rfl hrun.ne_nil
  · intro habove
    exact .inl ⟨[], AnyRun.any_cons_nil_iff.2 ⟨nofun, .inl rfl⟩, habove, nofun⟩

/-- Of two `any`s one can be left out. -/
theorem covered_any_any_iff : Covered c last (.any :: .any :: rest) ↔ Covered c last (.any :: rest) := by
  rw [covered_any_iff]
  constructor
  · rintro (⟨after, hrun, habove, hbelow⟩ | ⟨before, after, -, hrun, habove, hbelow⟩)
    · -- what follows the run is no `any`, so the run goes on with the second one
      obtain ⟨hafter, rfl | hshorter⟩ := AnyRun.any_cons_nil_iff.1 hrun
      · exact absurd rfl hafter
      · exact ⟨[], after, hshorter, habove, hbelow⟩
    · exact ⟨before, after, hrun, habove, hbelow⟩
  · rintro ⟨before, after, hrun, habove, hbelow⟩
    by_cases hbefore : before = []
    · subst hbefore
      exact .inl ⟨after, AnyRun.any_cons_nil_iff.2 ⟨hrun.not_after, .inr hrun⟩, habove, hbelow⟩
    · exact .inr ⟨before, after, hbefore, hrun, habove, hbelow⟩

/-- A component that ends a run bounds it above, and bounds below what follows. -/
theorem covered_any_component_iff : Covered c last (.any :: .component d :: rest) ↔
    (isAbove last c = true ∧ c.lt d = true) ∨ Covered c (some d) rest := by
  rw [covered_any_iff]
  constructor
  · rintro (⟨after, hrun, habove, hbelow⟩ | ⟨before, after, -, hrun, habove, hbelow⟩)
    · obtain ⟨-, rfl | hlonger⟩ := AnyRun.any_cons_nil_iff.1 hrun
      · exact .inl ⟨habove, hbelow d rfl⟩
      · obtain ⟨others, hothers, -⟩ := AnyRun.component_cons_iff.1 hlonger
        cases hothers
    · exact .inr (covered_component_iff.1 ⟨before, after, hrun, habove, hbelow⟩)
  · rintro (⟨habove, hbelow⟩ | hcovered)
    · refine .inl ⟨.component d :: rest, AnyRun.any_cons_nil_iff.2 ⟨nofun, .inl rfl⟩, habove, ?_⟩
      rintro d' ⟨⟩
      exact hbelow
    · obtain ⟨before, after, hrun, habove, hbelow⟩ := covered_component_iff.2 hcovered
      refine .inr ⟨before, after, ?_, hrun, habove, hbelow⟩
      obtain ⟨others, rfl, -⟩ := AnyRun.component_cons_iff.1 hrun
      exact List.cons_ne_nil _ _

mutual

/-- The walk finds a component that is an entry or covered. -/
theorem excludes_iff (c : Component) (last : Option Component) (entries : List ExcludeEntry) :
    excludes c last entries = true ↔ .component c ∈ entries ∨ Covered c last entries := by
  match entries with
  | [] =>
    rw [excludes]
    simp [not_covered_nil]
  | .any :: rest => exact excludesInRun_iff c last rest
  | .component d :: rest =>
    rw [excludes, Bool.or_eq_true, beq_iff_eq, excludes_iff c (some d) rest, covered_component_iff,
      List.mem_cons, ExcludeEntry.component.injEq, eq_comm, or_assoc]

/-- Inside a run the walk decides as if the run started here. -/
theorem excludesInRun_iff (c : Component) (last : Option Component) (entries : List ExcludeEntry) :
    excludesInRun c last entries = true ↔
      .component c ∈ ExcludeEntry.any :: entries ∨ Covered c last (.any :: entries) := by
  match entries with
  | [] =>
    rw [excludesInRun, covered_any_nil_iff]
    simp
  | .any :: rest =>
    rw [excludesInRun, excludesInRun_iff c last rest, covered_any_any_iff]
    simp
  | .component d :: rest =>
    rw [excludesInRun, Bool.or_eq_true, Bool.or_eq_true, Bool.and_eq_true, beq_iff_eq,
      excludes_iff c (some d) rest, covered_any_component_iff]
    simp only [List.mem_cons, reduceCtorEq, false_or, ExcludeEntry.component.injEq, eq_comm (a := c)]
    rw [or_comm (a := _ ∧ _), or_or_or_comm]

end

theorem isAbove_lastComponent_iff : isAbove (lastComponent none before) c = true ↔
    ∀ d, before.getLast? = some (.component d) → d.lt c = true := by
  unfold lastComponent
  cases before.getLast? with
  | none => exact iff_of_true rfl nofun
  | some entry =>
    cases entry with
    | any => exact iff_of_true rfl nofun
    | component d =>
      constructor
      · rintro h d' ⟨⟩
        exact h
      · intro h
        exact h d rfl

/-- An exclude contains a component if and only if that is one of its entries, or there is a run of
`any`s, as long as it goes, such that the component lies strictly above the one just before the run, if the
run does not start the list, and strictly below the one just after, if it does not end the list. The entries
may be in any order. -/
theorem contains_iff_entry_or_between (e : Exclude) (c : Component) : e.contains c = true ↔
    .component c ∈ e.entries ∨ ∃ before after, AnyRun e.entries before after
      ∧ (∀ d, before.getLast? = some (.component d) → d.lt c = true)
      ∧ ∀ d, after.head? = some (.component d) → c.lt d = true := by
  rw [contains, excludes_iff]
  simp only [Covered, isAbove_lastComponent_iff]

end Exclude

end NamedData
