import NamedData.Proofs.Wire.Elements
import NamedData.Wire.Name

/-!
# The order of names

Components are in order of the codes of their types, then of their values, and names in the order of their
first components that differ. The types `other 8` and `generic` have one place in the order and still
differ; where each type is as a type number gives it, components and names that have one place are equal,
and so they are in a total order (`compare_isTotalOrder`). What is written on the wire tells values apart
as the order does. The order agrees with that by prefixes, and names that start alike stand together
(`isPrefixOf_of_between`).
-/

namespace NamedData

open Wire (componentElement componentElements nameElement)

/-! ## Comparing is transitive, whatever the types are -/

instance : Std.TransOrd ComponentType :=
  inferInstanceAs (Std.TransCmp (compareOn ComponentType.code))

instance : Std.TransOrd Component :=
  inferInstanceAs (Std.TransCmp (compareLex (compareOn Component.type) (compareOn Component.value)))

instance : Std.TransOrd Name :=
  inferInstanceAs (Std.TransCmp (compareOn Name.components))

/-- The values of `P` are in a total order, in which each has a place of its own. -/
structure OrdersTotally {α : Type} (cmp : α → α → Ordering) (P : α → Prop) : Prop where
  antisymm : ∀ a b, P a → P b → (cmp a b).isLE = true → (cmp b a).isLE = true → a = b
  trans : ∀ a b c, P a → P b → P c → (cmp a b).isLE = true → (cmp b c).isLE = true →
    (cmp a c).isLE = true
  total : ∀ a b, P a → P b → (cmp a b).isLE = true ∨ (cmp b a).isLE = true
  eq_iff : ∀ a b, P a → P b → (cmp a b = .eq ↔ a = b)

/-- Of a transitive comparison only places that are shared are in the way. -/
theorem OrdersTotally.ofTransCmp {α : Type} {cmp : α → α → Ordering} [Std.TransCmp cmp]
    {P : α → Prop} (heq : ∀ a b, P a → P b → cmp a b = .eq → a = b) : OrdersTotally cmp P where
  antisymm a b ha hb hab hba := heq a b ha hb (Std.OrientedCmp.isLE_antisymm hab hba)
  trans _ _ _ _ _ _ := Std.TransCmp.isLE_trans
  total a b _ _ := by
    have hswap : cmp b a = (cmp a b).swap := Std.OrientedCmp.eq_swap
    rw [hswap]
    cases cmp a b <;> simp
  eq_iff a b ha hb := by
    refine ⟨heq a b ha hb, ?_⟩
    rintro rfl
    exact Std.ReflCmp.compare_self

/-! ## Components -/

namespace Component

/-- The type is as a type number gives it. -/
def HasNumberedType (c : Component) : Prop :=
  ∃ code, c.type = .ofCode code

variable {c d : Component}

theorem eq_of_code (hc : c.HasNumberedType) (hd : d.HasNumberedType) (hcode : c.type.code = d.type.code)
    (hvalue : c.value = d.value) : c = d := by
  obtain ⟨type, value⟩ := c
  obtain ⟨type', value'⟩ := d
  obtain ⟨code, rfl⟩ : ∃ code, type = .ofCode code := hc
  obtain ⟨code', rfl⟩ : ∃ code', type' = .ofCode code' := hd
  rw [ComponentType.code_ofCode, ComponentType.code_ofCode] at hcode
  cases hcode
  cases hvalue
  rfl

theorem eq_of_compare (hc : c.HasNumberedType) (hd : d.HasNumberedType) (h : compare c d = .eq) :
    c = d := by
  obtain ⟨htype, hvalue⟩ := Ordering.then_eq_eq.1 h
  have hcode : compare c.type.code d.type.code = .eq := htype
  exact eq_of_code hc hd (Std.LawfulEqCmp.eq_of_compare hcode) (Std.LawfulEqCmp.eq_of_compare hvalue)

/-- Components that are written alike are equal. -/
theorem eq_of_componentElement (hc : c.HasNumberedType) (hd : d.HasNumberedType)
    (h : componentElement c = componentElement d) : c = d := by
  obtain ⟨hcode, hvalue⟩ := Wire.element_inj h
  exact eq_of_code hc hd hcode hvalue

end Component

/-! ## Names -/

namespace Name

/-- The types of all components are as type numbers give them. -/
def HasNumberedTypes (n : Name) : Prop :=
  ∀ c ∈ n.components, c.HasNumberedType

/-- The lengths of all values are numbers of 64 bits. -/
def HasSizes (n : Name) : Prop :=
  ∀ c ∈ n.components, c.value.length < UInt64.size

variable {a b : Name} {cs ds : List Component}

theorem compare_eq (a b : Name) : compare a b = compare a.components b.components := rfl

theorem isPrefixOf_iff (n other : Name) : n.isPrefixOf other = true ↔ n.components <+: other.components :=
  List.isPrefixOf_iff_prefix

/-- A start that two names share does not matter. -/
theorem compare_append (common cs ds : List Component) :
    compare (common ++ cs) (common ++ ds) = compare cs ds := by
  induction common with
  | nil => rfl
  | cons c common ih =>
    have hself : compare c c = .eq := Std.ReflCmp.compare_self
    rw [List.cons_append, List.cons_append, List.compare_cons_cons, hself, ih]
    rfl

/-- The name goes on where the other one ends, or has the greater component where they first differ. -/
def ComesBefore (a b : Name) : Prop :=
  (∃ d rest, b.components = a.components ++ d :: rest)
    ∨ ∃ common c d rest rest', a.components = common ++ c :: rest
      ∧ b.components = common ++ d :: rest' ∧ compare c d = .lt

theorem ComesBefore.cons (c : Component) (h : ComesBefore ⟨cs⟩ ⟨ds⟩) :
    ComesBefore ⟨c :: cs⟩ ⟨c :: ds⟩ := by
  obtain ⟨d, rest, hds⟩ | ⟨common, e, d, rest, rest', hcs, hds, hlt⟩ := h
  · exact .inl ⟨d, rest, congrArg (c :: ·) hds⟩
  · exact .inr ⟨c :: common, e, d, rest, rest', congrArg (c :: ·) hcs, congrArg (c :: ·) hds, hlt⟩

/-- Of two different names one comes before the other. -/
theorem comesBefore_cases (ha : a.HasNumberedTypes) (hb : b.HasNumberedTypes) :
    a = b ∨ a.ComesBefore b ∨ b.ComesBefore a := by
  obtain ⟨cs⟩ := a
  obtain ⟨ds⟩ := b
  induction cs generalizing ds with
  | nil =>
    cases ds with
    | nil => exact .inl rfl
    | cons d ds => exact .inr (.inl (.inl ⟨d, ds, rfl⟩))
  | cons c cs ih =>
    cases ds with
    | nil => exact .inr (.inr (.inl ⟨c, cs, rfl⟩))
    | cons d ds =>
      obtain ⟨hc, hcs⟩ := List.forall_mem_cons.1 ha
      obtain ⟨hd, hds⟩ := List.forall_mem_cons.1 hb
      cases hcompare : compare c d with
      | lt => exact .inr (.inl (.inr ⟨[], c, d, cs, ds, rfl, rfl, hcompare⟩))
      | gt =>
        have hswap : compare d c = .lt := Std.OrientedCmp.lt_of_gt hcompare
        exact .inr (.inr (.inr ⟨[], d, c, ds, cs, rfl, rfl, hswap⟩))
      | eq =>
        cases Component.eq_of_compare hc hd hcompare
        refine (ih hcs ds hds).imp (fun h => ?_) (Or.imp (.cons c) (.cons c))
        exact congrArg (fun n : Name => Name.mk (c :: n.components)) h

theorem compare_of_comesBefore (h : a.ComesBefore b) : compare a b = .lt := by
  obtain ⟨cs⟩ := a
  obtain ⟨ds⟩ := b
  obtain ⟨d, rest, rfl⟩ | ⟨common, c, d, rest, rest', rfl, rfl, hlt⟩ := h
  · have hcompare := compare_append cs [] (d :: rest)
    rw [List.append_nil] at hcompare
    exact hcompare
  · rw [compare_eq, compare_append, List.compare_cons_cons, hlt]
    rfl

theorem eq_of_compare (ha : a.HasNumberedTypes) (hb : b.HasNumberedTypes) (h : compare a b = .eq) :
    a = b := by
  obtain heq | hbefore | hbefore := comesBefore_cases ha hb
  · exact heq
  · cases h.symm.trans (compare_of_comesBefore hbefore)
  · cases (Std.OrientedCmp.eq_symm h).symm.trans (compare_of_comesBefore hbefore)

theorem compare_eq_lt_iff (ha : a.HasNumberedTypes) (hb : b.HasNumberedTypes) :
    compare a b = .lt ↔ a.ComesBefore b := by
  refine ⟨fun h => ?_, compare_of_comesBefore⟩
  obtain rfl | hbefore | hbefore := comesBefore_cases ha hb
  · cases h.symm.trans Std.ReflCmp.compare_self
  · exact hbefore
  · cases (Std.OrientedCmp.gt_of_lt h).symm.trans (compare_of_comesBefore hbefore)

/-! ### Names on the wire -/

theorem eq_of_componentElements (hcs : HasNumberedTypes ⟨cs⟩) (hds : HasNumberedTypes ⟨ds⟩)
    (hsizes : HasSizes ⟨cs⟩) (hsizes' : HasSizes ⟨ds⟩)
    (h : componentElements cs = componentElements ds) : cs = ds := by
  have hne (c : Component) (rest : List Component) : componentElements (c :: rest) ≠ [] :=
    List.append_ne_nil_of_left_ne_nil (Wire.startsWith_element _ _).ne_nil _
  induction cs generalizing ds with
  | nil =>
    cases ds with
    | nil => rfl
    | cons d ds => exact absurd h.symm (hne d ds)
  | cons c cs ih =>
    cases ds with
    | nil => exact absurd h (hne c cs)
    | cons d ds =>
      obtain ⟨hc, hcs⟩ := List.forall_mem_cons.1 hcs
      obtain ⟨hd, hds⟩ := List.forall_mem_cons.1 hds
      obtain ⟨hsize, hsizes⟩ := List.forall_mem_cons.1 hsizes
      obtain ⟨hsize', hsizes'⟩ := List.forall_mem_cons.1 hsizes'
      obtain ⟨hcode, hvalue, hrest⟩ := Wire.element_append_inj hsize hsize' h
      rw [Component.eq_of_code hc hd hcode hvalue, ih hcs hds hsizes hsizes' hrest]

/-- Names that are written alike are equal. -/
theorem eq_of_nameElement (ha : a.HasNumberedTypes) (hb : b.HasNumberedTypes) (hsizes : a.HasSizes)
    (hsizes' : b.HasSizes) (h : nameElement a = nameElement b) : a = b := by
  obtain ⟨cs⟩ := a
  obtain ⟨ds⟩ := b
  obtain ⟨-, hvalue⟩ := Wire.element_inj h
  exact congrArg Name.mk (eq_of_componentElements ha hb hsizes hsizes' hvalue)

/-! ### Prefixes -/

theorem isLE_of_isPrefixOf (h : a.isPrefixOf b = true) : (compare a b).isLE = true := by
  obtain ⟨rest, hrest⟩ := (isPrefixOf_iff a b).1 h
  have hcompare := compare_append a.components [] rest
  rw [List.append_nil, hrest] at hcompare
  rw [compare_eq, hcompare]
  cases rest <;> rfl

theorem prefix_of_between {common ys xs zs : List Component} (hcommon : HasNumberedTypes ⟨common⟩)
    (hys : HasNumberedTypes ⟨ys⟩) (hxy : (compare (common ++ xs) ys).isLE = true)
    (hyz : (compare ys (common ++ zs)).isLE = true) : common <+: ys := by
  induction common generalizing ys with
  | nil => exact List.nil_prefix
  | cons c common ih =>
    cases ys with
    | nil => cases hxy
    | cons y ys =>
      obtain ⟨hc, hcommon⟩ := List.forall_mem_cons.1 hcommon
      obtain ⟨hy, htail⟩ := List.forall_mem_cons.1 hys
      rw [List.cons_append, List.compare_cons_cons, Ordering.isLE_then_iff_or] at hxy hyz
      -- the first component lies between `c` and `c`
      have hcy : (compare c y).isLE = true := by
        rcases hxy with h | ⟨h, -⟩ <;> rw [h] <;> rfl
      have hyc : (compare y c).isLE = true := by
        rcases hyz with h | ⟨h, -⟩ <;> rw [h] <;> rfl
      have hself : compare c y = .eq := Std.OrientedCmp.isLE_antisymm hcy hyc
      cases Component.eq_of_compare hc hy hself
      rw [hself] at hxy hyz
      obtain hlt | ⟨-, hxy⟩ := hxy
      · cases hlt
      obtain hlt | ⟨-, hyz⟩ := hyz
      · cases hlt
      exact List.cons_prefix_cons.2 ⟨rfl, ih hcommon htail hxy hyz⟩

/-- A name between two that start with a prefix starts with it too. -/
theorem isPrefixOf_of_between {start x y z : Name} (hstart : start.HasNumberedTypes)
    (hy : y.HasNumberedTypes) (hx : start.isPrefixOf x = true) (hz : start.isPrefixOf z = true)
    (hxy : (compare x y).isLE = true) (hyz : (compare y z).isLE = true) :
    start.isPrefixOf y = true := by
  obtain ⟨xs, hxs⟩ := (isPrefixOf_iff start x).1 hx
  obtain ⟨zs, hzs⟩ := (isPrefixOf_iff start z).1 hz
  rw [compare_eq, ← hxs] at hxy
  rw [compare_eq, ← hzs] at hyz
  exact (isPrefixOf_iff start y).2 (prefix_of_between hstart hy hxy hyz)

/-- Components whose types are as type numbers give them are in a total order, in which two have one place
if and only if they are written alike; so are names of such components. The first difference of two names
decides, and a name comes before those that go on where it ends. Prefixes are a partial order that the total
one extends, and the names that start with a given one are all that lie between any two of them. -/
theorem compare_isTotalOrder :
    OrdersTotally compare Component.HasNumberedType
      ∧ (∀ c d : Component, c.HasNumberedType → d.HasNumberedType →
        (compare c d = .eq ↔ componentElement c = componentElement d))
      ∧ OrdersTotally compare HasNumberedTypes
      ∧ (∀ a b : Name, a.HasNumberedTypes → b.HasNumberedTypes →
        (compare a b = .lt ↔ a.ComesBefore b)
          ∧ (a.HasSizes → b.HasSizes → (compare a b = .eq ↔ nameElement a = nameElement b)))
      ∧ ((∀ a : Name, a.isPrefixOf a = true)
        ∧ (∀ a b : Name, a.isPrefixOf b = true → b.isPrefixOf a = true → a = b)
        ∧ ∀ a b c : Name, a.isPrefixOf b = true → b.isPrefixOf c = true → a.isPrefixOf c = true)
      ∧ (∀ a b : Name, a.isPrefixOf b = true → (compare a b).isLE = true)
      ∧ ∀ start x y z : Name, start.HasNumberedTypes → y.HasNumberedTypes →
        start.isPrefixOf x = true → start.isPrefixOf z = true →
          (compare x y).isLE = true → (compare y z).isLE = true → start.isPrefixOf y = true := by
  refine ⟨.ofTransCmp fun _ _ => Component.eq_of_compare, fun c d hc hd => ⟨fun h => ?_, fun h => ?_⟩,
    .ofTransCmp fun _ _ => eq_of_compare, fun a b ha hb => ⟨compare_eq_lt_iff ha hb,
      fun hsizes hsizes' => ⟨fun h => ?_, fun h => ?_⟩⟩,
    ⟨fun a => ?_, fun a b hab hba => ?_, fun a b c hab hbc => ?_⟩, fun _ _ => isLE_of_isPrefixOf,
    fun _ _ _ _ hstart hy hx hz => isPrefixOf_of_between hstart hy hx hz⟩
  · rw [Component.eq_of_compare hc hd h]
  · rw [Component.eq_of_componentElement hc hd h]
    exact Std.ReflCmp.compare_self
  · rw [eq_of_compare ha hb h]
  · rw [eq_of_nameElement ha hb hsizes hsizes' h]
    exact Std.ReflCmp.compare_self
  · exact (isPrefixOf_iff a a).2 (List.prefix_refl _)
  · rw [isPrefixOf_iff] at hab hba
    exact congrArg Name.mk (hab.eq_of_length_le hba.length_le)
  · rw [isPrefixOf_iff] at hab hbc ⊢
    exact hab.trans hbc

/-- A name under a digest lies between the name and one that goes on with a component of no bytes, and is
written in another way than both. -/
theorem compare_isTotalOrder_digest :
    let start : Name := ⟨[.generic [0x61]]⟩
    let under : Name := ⟨[.generic [0x61], ⟨.implicitSha256Digest, [0xff]⟩]⟩
    let next : Name := ⟨[.generic [0x61], .generic []]⟩
    (start.HasNumberedTypes ∧ under.HasNumberedTypes ∧ next.HasNumberedTypes)
      ∧ (under.HasSizes ∧ next.HasSizes)
      ∧ (start.isPrefixOf start = true ∧ start.isPrefixOf next = true)
      ∧ ((compare start under).isLE = true ∧ (compare under next).isLE = true)
      ∧ start.isPrefixOf under = true ∧ under.ComesBefore next
      ∧ nameElement under ≠ nameElement next := by
  intro start under next
  have hgeneric (value : Bytes) : (Component.generic value).HasNumberedType := ⟨8, rfl⟩
  have hdigest (value : Bytes) : Component.HasNumberedType ⟨.implicitSha256Digest, value⟩ := ⟨1, rfl⟩
  have hstart : start.HasNumberedTypes := List.forall_mem_cons.2 ⟨hgeneric _, nofun⟩
  have hunder : under.HasNumberedTypes :=
    List.forall_mem_cons.2 ⟨hgeneric _, List.forall_mem_cons.2 ⟨hdigest _, nofun⟩⟩
  have hnext : next.HasNumberedTypes :=
    List.forall_mem_cons.2 ⟨hgeneric _, List.forall_mem_cons.2 ⟨hgeneric _, nofun⟩⟩
  have hsizes : under.HasSizes ∧ next.HasSizes := by
    simp [HasSizes, under, next, Component.generic, UInt64.size]
  obtain ⟨-, -, -, hnames, -, hleads, hbetween⟩ := compare_isTotalOrder
  obtain ⟨hbefore, hwritten⟩ := hnames under next hunder hnext
  have hlt : compare under next = .lt := rfl
  refine ⟨⟨hstart, hunder, hnext⟩, hsizes, ⟨rfl, rfl⟩,
    ⟨hleads start under rfl, rfl⟩,
    hbetween start start under next hstart hunder rfl rfl rfl rfl, hbefore.1 hlt, fun h => ?_⟩
  cases hlt.symm.trans ((hwritten hsizes.1 hsizes.2).2 h)

end Name

end NamedData
