import NamedData.Proofs.Wire.Elements

/-!
# Grammars of elements

A `Grammar` relates the elements up to the end of the surrounding one to a value and to the elements
that are left. `Required` and `Optional` are one field, `IsTail` is what may be skipped at the end,
and `Contains` goes into the value of an element.

`Reader.Accepts stop r g` says that the reader `r` is a reader for the grammar `g` inside an element
that ends at `stop`: on elements that fill what is left of it `r` succeeds as `g` says, and whatever
`r` succeeds on, it moves over whole elements. The second half is needed since a reader meets bytes
and not elements: headers may run over the end, and only the tail shows that none did. Readers in
sequence are readers for the grammars in sequence (`Accepts.bind`), and what ends with a tail takes
the whole value of an element (`AcceptsElement.nested`), so that the grammar of a packet follows the
text of its reader field by field.
-/

namespace NamedData.Wire

open Element (concat)

variable {α β : Type} {type : UInt64}

/-! ## Grammars -/

/-- How elements give a value, and which of them are left then. -/
abbrev Grammar (α : Type) : Type :=
  (es : List Element) → α → (rest : List Element) → Prop

/-- An element of the given type comes first and has a value. -/
def Required (type : UInt64) (P : Element → α → Prop) : Grammar α :=
  fun es a rest => ∃ e, es = e :: rest ∧ e.type = type ∧ P e a

/-- If an element of the given type comes first, it has a value; else there is none. -/
inductive Optional (type : UInt64) (P : Element → α → Prop) : Grammar (Option α) where
  | some {e : Element} {es : List Element} {a : α} (htype : e.type = type) (h : P e a) :
      Optional type P (e :: es) (some a) es
  | none {es : List Element} (h : ∀ e ∈ es.head?, e.type ≠ type) : Optional type P es none es

/-- Elements that may be skipped where they are not known. -/
def IsTail (es : List Element) : Prop :=
  ∀ e ∈ es, ElementType.isCritical e.type = false

/-- Bytes that are elements of a grammar and then a tail. -/
def Grammar.Fills (g : Grammar α) (bytes : Bytes) (a : α) : Prop :=
  ∃ es rest, bytes = concat es ∧ g es a rest ∧ IsTail rest

/-- An element with elements of a grammar and a tail in it. -/
def Contains (g : Grammar α) (e : Element) (a : α) : Prop :=
  g.Fills e.value a

/-- An element with a number in it, in one, two, four or eight bytes. -/
def HoldsInteger (e : Element) (n : UInt64) : Prop :=
  e.value.length ∈ [1, 2, 4, 8] ∧ Bytes.ofBigEndian e.value = n.toNat

/-- An element with a number of 32 bits in it. -/
def HoldsInteger32 (e : Element) (n : UInt32) : Prop :=
  HoldsInteger e n.toUInt64

/-- An element with the given bytes in it. -/
def HoldsBytes (e : Element) (value : Bytes) : Prop :=
  value = e.value

/-- An element with a sequence of elements in it. -/
def HoldsElements (e : Element) (es : List Element) : Prop :=
  e.value = concat es

/-- Items for elements that follow each other from an offset on. -/
inductive Row (P : (offset : Nat) → Element → α → Prop) : Nat → List Element → List α → Prop where
  | nil {offset : Nat} : Row P offset [] []
  | cons {offset : Nat} {e : Element} {a : α} {es : List Element} {as : List α} (hfirst : P offset e a)
      (hrest : Row P (offset + e.bytes.length) es as) : Row P offset (e :: es) (a :: as)

/-- The same elements for the same values. -/
theorem contains_congr {g g' : Grammar α} (h : ∀ es a rest, g es a rest ↔ g' es a rest) {e : Element}
    {a : α} : Contains g e a ↔ Contains g' e a := by
  simp only [Contains, Grammar.Fills, h]

theorem Required.suffix {P : Element → α → Prop} {es rest : List Element} {a : α}
    (h : Required type P es a rest) : rest <:+ es := by
  obtain ⟨e, rfl, -⟩ := h
  exact List.suffix_cons e rest

theorem Optional.suffix {P : Element → α → Prop} {es rest : List Element} {a : Option α}
    (h : Optional type P es a rest) : rest <:+ es := by
  cases h with
  | some => exact List.suffix_cons _ _
  | none => exact List.suffix_refl _

/-! ## Types among elements -/

/-- One of the elements has the type. -/
def HasType (type : UInt64) (es : List Element) : Prop :=
  ∃ e ∈ es, e.type = type

section HasType

variable {P : Element → α → Prop} {other : UInt64} {e : Element} {es rest : List Element}

theorem hasType_cons_iff (h : e.type ≠ other) : HasType other (e :: es) ↔ HasType other es := by
  simp only [HasType, List.mem_cons, exists_eq_or_imp, h, false_or]

theorem IsTail.not_hasType (h : IsTail es) (hcritical : ElementType.isCritical type = true) :
    ¬ HasType type es := by
  rintro ⟨e, he, rfl⟩
  rw [h e he] at hcritical
  cases hcritical

theorem Required.hasType_iff {a : α} (h : Required type P es a rest) (hne : type ≠ other) :
    HasType other es ↔ HasType other rest := by
  obtain ⟨e, rfl, rfl, -⟩ := h
  exact hasType_cons_iff hne

theorem Optional.hasType_iff {a : Option α} (h : Optional type P es a rest) (hne : type ≠ other) :
    HasType other es ↔ HasType other rest := by
  cases h with
  | some htype _ => exact hasType_cons_iff (htype ▸ hne)
  | none => exact Iff.rfl

/-- An element of the type of a field is the field, unless it comes later. -/
theorem Optional.of_mem {a : Option α} (h : Optional type P es a rest) (hrest : ¬ HasType type rest)
    (he : e ∈ es) (htype : e.type = type) : ∃ b, a = Option.some b ∧ P e b := by
  cases h with
  | some _ hP =>
    rcases List.mem_cons.1 he with rfl | he
    · exact ⟨_, rfl, hP⟩
    · exact absurd ⟨e, he, htype⟩ hrest
  | none => exact absurd ⟨e, he, htype⟩ hrest

/-- A field that has a value is an element of its type. -/
theorem Optional.exists_mem {b : α} (h : Optional type P es (Option.some b) rest) :
    ∃ e ∈ es, e.type = type ∧ P e b := by
  cases h with
  | some htype hP => exact ⟨_, List.mem_cons_self, htype, hP⟩

end HasType

namespace Reader

variable {stop : Nat} {c c' last : Cursor}

/-! ## Readers for a grammar -/

/-- Reader `r` is a reader for the grammar `g` inside an element that ends at `stop`. -/
structure Accepts (stop : Nat) (r : Reader α) (g : Grammar α) : Prop where
  /-- It moves over whole elements. -/
  whole {c c' : Cursor} {a : α} : c.offset ≤ stop → r stop c = .ok (a, c') →
    ∃ es, c.Moves (concat es) c' ∧ c'.offset ≤ stop
  /-- It succeeds only as the grammar says. -/
  sound {c c' last : Cursor} {es : List Element} {a : α} : last.offset = stop →
    c.Moves (concat es) last → r stop c = .ok (a, c') →
      ∃ rest, g es a rest ∧ c'.Moves (concat rest) last
  /-- It succeeds as the grammar says. -/
  complete {c last : Cursor} {es rest : List Element} {a : α} : last.offset = stop →
    stop < UInt64.size → c.Moves (concat es) last → g es a rest →
      ∃ c', r stop c = .ok (a, c') ∧ c'.Moves (concat rest) last

/-- Reader `r` takes the bytes up to `stop`, where the surrounding element ends, as `Q` says. -/
structure Exhausts (stop : Nat) (r : Reader α) (Q : Bytes → α → Prop) : Prop where
  sound {c c' last : Cursor} {bytes : Bytes} {a : α} : last.offset = stop →
    c.Moves bytes last → r stop c = .ok (a, c') → Q bytes a ∧ c' = last
  complete {c last : Cursor} {bytes : Bytes} {a : α} : last.offset = stop → stop < UInt64.size →
    c.Moves bytes last → Q bytes a → r stop c = .ok (a, last)

namespace Accepts

variable {r : Reader α} {g g' : Grammar α}

/-- The same elements for the same values. -/
theorem congr (h : Accepts stop r g) (hiff : ∀ es a rest, g es a rest ↔ g' es a rest) :
    Accepts stop r g' where
  whole := h.whole
  sound hlast hmoves hread := by
    obtain ⟨rest, hg, hrest⟩ := h.sound hlast hmoves hread
    exact ⟨rest, (hiff _ _ _).1 hg, hrest⟩
  complete hlast hsize hmoves hg := h.complete hlast hsize hmoves ((hiff _ _ _).2 hg)

/-- One grammar after the other. -/
protected theorem bind {next : α → Reader β} {G : α → Grammar β} (h : Accepts stop r g)
    (hnext : ∀ a, Accepts stop (next a) (G a)) :
    Accepts stop (r >>= next) fun es b rest => ∃ a es₁, g es a es₁ ∧ G a es₁ b rest where
  whole hc hread := by
    obtain ⟨a, c₁, hfirst, hrest⟩ := bind_eq_ok_iff.1 hread
    obtain ⟨es, hmoves, hc₁⟩ := h.whole hc hfirst
    obtain ⟨es', hmoves', hc'⟩ := (hnext a).whole hc₁ hrest
    refine ⟨es ++ es', ?_, hc'⟩
    rw [Element.concat_append]
    exact hmoves.trans hmoves'
  sound hlast hmoves hread := by
    obtain ⟨a, c₁, hfirst, hrest⟩ := bind_eq_ok_iff.1 hread
    obtain ⟨es₁, hg, hmoves₁⟩ := h.sound hlast hmoves hfirst
    obtain ⟨rest, hG, hmoves'⟩ := (hnext a).sound hlast hmoves₁ hrest
    exact ⟨rest, ⟨a, es₁, hg, hG⟩, hmoves'⟩
  complete hlast hsize hmoves := by
    rintro ⟨a, es₁, hg, hG⟩
    obtain ⟨c₁, hfirst, hmoves₁⟩ := h.complete hlast hsize hmoves hg
    obtain ⟨c', hrest, hmoves'⟩ := (hnext a).complete hlast hsize hmoves₁ hG
    exact ⟨c', bind_eq_ok_iff.2 ⟨a, c₁, hfirst, hrest⟩, hmoves'⟩

/-- What takes nothing leaves all elements. -/
theorem idle {Q : α → Prop} (h : Idle r Q) :
    Accepts stop r fun es a rest => Q a ∧ rest = es where
  whole hc hread := by
    obtain ⟨-, rfl⟩ := h.iff.1 hread
    exact ⟨[], .refl _, hc⟩
  sound hlast hmoves hread := by
    obtain ⟨hQ, rfl⟩ := h.iff.1 hread
    exact ⟨_, ⟨hQ, rfl⟩, hmoves⟩
  complete hlast hsize hmoves := by
    rintro ⟨hQ, rfl⟩
    exact ⟨_, h.iff.2 ⟨hQ, rfl⟩, hmoves⟩

protected theorem pure (a : α) :
    Accepts stop (pure a) fun es b rest => b = a ∧ rest = es :=
  idle (.pure a)

/-- What looks at the value that was read decides on the value that is given. -/
theorem bind_idle {next : α → Reader β} {Q : α → β → Prop} (h : Accepts stop r g)
    (hnext : ∀ a, Idle (next a) (Q a)) :
    Accepts stop (r >>= next) fun es b rest => ∃ a, g es a rest ∧ Q a b := by
  refine (h.bind fun a => idle (hnext a)).congr fun es b rest => ?_
  constructor
  · rintro ⟨a, es₁, hg, hQ, rfl⟩
    exact ⟨a, hg, hQ⟩
  · rintro ⟨a, hg, hQ⟩
    exact ⟨a, rest, hg, hQ, rfl⟩

/-- The offset tells how much is left. -/
protected theorem offset :
    Accepts stop offset fun es o rest => o + (concat es).length = stop ∧ rest = es where
  whole := by
    rintro c c' o hc ⟨⟩
    exact ⟨[], .refl _, hc⟩
  sound := by
    rintro c c' last es o hlast hmoves ⟨⟩
    exact ⟨es, ⟨hmoves.offset_eq.symm.trans hlast, rfl⟩, hmoves⟩
  complete := by
    rintro c last es rest o hlast hsize hmoves ⟨hoffset, rfl⟩
    have hend := hmoves.offset_eq
    have heq : o = c.offset := by omega
    subst heq
    exact ⟨c, rfl, hmoves⟩

/-- The next element is told by its type. -/
private theorem peek_eq {es : List Element} (hlast : last.offset = stop)
    (hmoves : c.Moves (concat es) last) : peek stop c = .ok (es.head?.map Element.type, c) := by
  unfold peek
  cases es with
  | nil =>
    cases hmoves.eq_of_nil
    exact if_pos (Nat.le_of_eq hlast.symm)
  | cons e es =>
    obtain ⟨c₁, hfirst, -⟩ := hmoves.exists_between
    obtain ⟨_, head, hform, -, hhead, -⟩ := hfirst.enters
    obtain ⟨htype, -⟩ := hform
    obtain ⟨c₃, htypeMoves, -⟩ := hhead.exists_between
    have hpos := e.length_bytes_pos
    have hend := hmoves.offset_eq
    rw [Element.concat_cons, List.length_append] at hend
    rw [if_neg (by omega), number_eq_ok_iff.2 ⟨_, htype, htypeMoves⟩]
    rfl

/-- Looking ahead takes nothing. -/
private theorem eq_of_peek {next : Option UInt64} (h : peek stop c = .ok (next, c')) : c' = c := by
  unfold peek at h
  split at h
  · cases h
    rfl
  · split at h <;>
    · cases h
      rfl

end Accepts

namespace AcceptsElement

variable {r : Reader α} {P : Element → α → Prop}

/-- A reader of one element is a reader for the grammar of this element. -/
theorem next {P : Nat → Element → α → Prop} (h : AcceptsElement r P) :
    Accepts stop r fun es a rest => ∃ e, es = e :: rest ∧ P (stop - (concat es).length) e a where
  whole _ hread := by
    obtain ⟨e, -, hmoves, hstop⟩ := h.sound hread
    refine ⟨[e], ?_, hstop⟩
    rw [Element.concat_cons, Element.concat_nil, List.append_nil]
    exact hmoves
  sound {c c' last es a} hlast hmoves hread := by
    obtain ⟨e, hP, hmoves', hstop⟩ := h.sound hread
    have hoffset : stop - (concat es).length = c.offset := hlast ▸ hmoves.sub_length
    cases es with
    | nil =>
      -- an element would lead over the end
      cases hmoves.eq_of_nil
      have := hmoves'.offset_eq
      have := e.length_bytes_pos
      omega
    | cons e' es =>
      obtain ⟨c₁, hfirst, hrest⟩ := hmoves.exists_between
      obtain ⟨rfl, -⟩ := Element.unique (hmoves'.rest_eq.symm.trans hfirst.rest_eq)
      cases hmoves'.unique hfirst
      rw [← hoffset] at hP
      exact ⟨es, ⟨e, rfl, hP⟩, hrest⟩
  complete {c last es rest a} hlast hsize hmoves := by
    rintro ⟨e, rfl, hP⟩
    obtain ⟨c₁, hfirst, hrest⟩ := hmoves.exists_between
    have hoffset : stop - (concat (e :: rest)).length = c.offset := hlast ▸ hmoves.sub_length
    rw [hoffset] at hP
    exact ⟨c₁, h.complete hP hfirst (hlast ▸ hrest.le) hsize, hrest⟩

/-- A field that must be there. -/
theorem required (h : AcceptsElement r fun _ e a => e.type = type ∧ P e a) :
    Accepts stop r (Required type P) :=
  h.next

/-- A field that may be missing. -/
theorem optional (h : AcceptsElement r fun _ e a => e.type = type ∧ P e a) :
    Accepts stop (optional type r) (Optional type P) where
  whole {c c' a} hc hread := by
    obtain ⟨next, c₁, hpeek, hread⟩ := bind_eq_ok_iff.1 hread
    cases Accepts.eq_of_peek hpeek
    split at hread
    · obtain ⟨a, c₂, hr, hpure⟩ := bind_eq_ok_iff.1 hread
      cases hpure
      have hrequired : Accepts stop r (Required type P) := h.required
      exact hrequired.whole hc hr
    · cases hread
      exact ⟨[], .refl _, hc⟩
  sound {c c' last es a} hlast hmoves hread := by
    obtain ⟨next, c₁, hpeek, hread⟩ := bind_eq_ok_iff.1 hread
    rw [Accepts.peek_eq hlast hmoves] at hpeek
    cases hpeek
    split at hread
    · obtain ⟨a, c₂, hr, hpure⟩ := bind_eq_ok_iff.1 hread
      cases hpure
      obtain ⟨rest, ⟨e, rfl, htype, hP⟩, hrest⟩ := h.required.sound hlast hmoves hr
      exact ⟨rest, .some htype hP, hrest⟩
    · next hother =>
      cases hread
      refine ⟨es, .none fun e he htype => hother ?_, hmoves⟩
      rw [Option.mem_def.1 he, Option.map_some, htype]
  complete {c last es rest a} hlast hsize hmoves hg := by
    have hpeek := Accepts.peek_eq hlast hmoves
    cases hg with
    | @some e es a htype hP =>
      obtain ⟨c', hr, hrest⟩ := h.required.complete hlast hsize hmoves ⟨e, rfl, htype, hP⟩
      refine ⟨c', bind_eq_ok_iff.2 ⟨_, c, hpeek, ?_⟩, hrest⟩
      rw [List.head?_cons, Option.map_some, htype, if_pos rfl]
      exact bind_eq_ok_iff.2 ⟨a, c', hr, rfl⟩
    | none hother =>
      refine ⟨c, bind_eq_ok_iff.2 ⟨_, c, hpeek, ?_⟩, hmoves⟩
      rw [if_neg]
      · rfl
      · intro heq
        obtain ⟨e, he, htype⟩ := Option.map_eq_some_iff.1 heq
        exact hother e he htype

/-! ## Sequences -/

private theorem of_atMost {P : Nat → Element → α → Prop} (h : AcceptsElement r P) {count : Nat}
    {as : List α} (hc : c.offset ≤ stop) (hcount : stop - c.offset ≤ count)
    (hread : atMost r count stop c = .ok (as, c')) :
    ∃ es, c.Moves (concat es) c' ∧ c'.offset = stop ∧ Row P c.offset es as := by
  induction count generalizing c as with
  | zero =>
    cases hread
    exact ⟨[], .refl _, by omega, .nil⟩
  | succ count ih =>
    unfold atMost at hread
    split at hread
    · cases hread
      exact ⟨[], .refl _, by omega, .nil⟩
    cases hr : r stop c with
    | error e =>
      rw [hr] at hread
      cases hread
    | ok p =>
      obtain ⟨a, c₁⟩ := p
      rw [hr] at hread
      obtain ⟨e, hP, hfirst, hstop⟩ := h.sound hr
      have hpos := e.length_bytes_pos
      have hoffset := hfirst.offset_eq
      cases hrest : atMost r count stop c₁ with
      | error e =>
        simp only [hrest] at hread
        cases hread
      | ok p =>
        obtain ⟨as', c₂⟩ := p
        simp only [hrest] at hread
        cases hread
        -- an element has a byte at least, so that the bound for the rest is large enough
        obtain ⟨es, hmoves, hend, hrow⟩ := ih hstop (by omega) hrest
        exact ⟨e :: es, hfirst.trans hmoves, hend, .cons hP (hoffset ▸ hrow)⟩

private theorem atMost_of_row {P : Nat → Element → α → Prop} (h : AcceptsElement r P)
    {es : List Element} {as : List α} {offset count : Nat} (hrow : Row P offset es as)
    (hoffset : offset = c.offset) (hlast : last.offset = stop) (hsize : stop < UInt64.size)
    (hmoves : c.Moves (concat es) last) (hcount : stop - c.offset ≤ count) :
    atMost r count stop c = .ok (as, last) := by
  induction hrow generalizing c count with
  | nil =>
    cases hmoves.eq_of_nil
    cases count with
    | zero => rfl
    | succ count => exact if_pos (Nat.le_of_eq hlast.symm)
  | @cons offset e a es as hfirst hrest ih =>
    subst hoffset
    obtain ⟨c₁, hmoves₁, hmoves₂⟩ := hmoves.exists_between
    have hpos := e.length_bytes_pos
    have hend := hmoves₂.le
    have hc₁ := hmoves₁.offset_eq
    cases count with
    | zero => omega
    | succ count =>
      unfold atMost
      rw [if_neg (by omega), h.complete hfirst hmoves₁ (by omega) hsize]
      dsimp only
      rw [ih hc₁.symm hmoves₂ (by omega)]
      rfl

/-- Items up to the end of the surrounding element. -/
theorem many {P : Nat → Element → α → Prop} (h : AcceptsElement r P) :
    Accepts stop (many r) fun es as rest => rest = [] ∧ Row P (stop - (concat es).length) es as where
  whole hc hread := by
    obtain ⟨es, hmoves, hend, -⟩ := h.of_atMost hc (Nat.le_refl _) hread
    exact ⟨es, hmoves, Nat.le_of_eq hend⟩
  sound {c c' last es as} hlast hmoves hread := by
    have hc : c.offset ≤ stop := hlast ▸ hmoves.le
    obtain ⟨es', hmoves', hend, hrow⟩ := h.of_atMost hc (Nat.le_refl _) hread
    obtain ⟨heq, rfl⟩ := hmoves.eq_of_offset_eq hmoves' (hlast.trans hend.symm)
    cases Element.concat_injective heq
    have hoffset : stop - (concat es).length = c.offset := hlast ▸ hmoves.sub_length
    exact ⟨[], ⟨rfl, hoffset ▸ hrow⟩, .refl _⟩
  complete {c last es rest as} hlast hsize hmoves := by
    rintro ⟨rfl, hrow⟩
    have hoffset : stop - (concat es).length = c.offset := hlast ▸ hmoves.sub_length
    exact ⟨last, h.atMost_of_row hrow hoffset hlast hsize hmoves (Nat.le_refl _), .refl _⟩

/-- Items that are told by their elements and the offsets where these stand. -/
theorem many_placed {f : Nat → Element → α} (h : AcceptsElement r fun offset e a => a = f offset e) :
    Accepts stop (Reader.many r) fun es as rest =>
      rest = [] ∧ as = Reads.placed f Element.bytes (stop - (concat es).length) es := by
  refine h.many.congr fun es as rest => and_congr_right fun _ => ?_
  generalize stop - (concat es).length = offset
  constructor
  · intro hrow
    induction hrow with
    | nil => rfl
    | cons hfirst _ ih => rw [hfirst, ih, Reads.placed]
  · rintro rfl
    induction es generalizing offset with
    | nil => exact .nil
    | cons e es ih => exact .cons rfl (ih _)

/-- Items that are told by their elements. -/
theorem many_map {f : Element → α} (h : AcceptsElement r fun _ e a => a = f e) :
    Accepts stop (Reader.many r) fun es as rest => rest = [] ∧ as = es.map f :=
  h.many_placed.congr fun _ _ _ => by rw [Reads.placed_const]

end AcceptsElement

/-! ## Tails -/

namespace Accepts

variable {r : Reader α} {g : Grammar α}

/-- Unknown elements are skipped if none of them is critical. -/
protected theorem tail : Accepts stop tail fun es _ rest => rest = [] ∧ IsTail es := by
  refine (Accepts.bind AcceptsElement.skipUnknown.many fun _ => .pure ()).congr fun es _ rest => ?_
  generalize stop - (concat es).length = offset
  constructor
  · rintro ⟨units, _, ⟨rfl, hrow⟩, -, rfl⟩
    refine ⟨rfl, ?_⟩
    induction hrow with
    | nil => exact fun _ h => absurd h List.not_mem_nil
    | cons hfirst _ ih => exact List.forall_mem_cons.2 ⟨hfirst, ih⟩
  · rintro ⟨rfl, htail⟩
    refine ⟨es.map fun _ => (), [], ⟨rfl, ?_⟩, rfl, rfl⟩
    induction es generalizing offset with
    | nil => exact .nil
    | cons e es ih =>
      obtain ⟨hfirst, hrest⟩ := List.forall_mem_cons.1 htail
      exact .cons hfirst (ih _ hrest)

end Accepts

/-- Reader `r` stops only where the surrounding element ends. -/
structure Ends (stop : Nat) (r : Reader α) : Prop where
  offset_eq {c c' : Cursor} {a : α} : c.offset ≤ stop → r stop c = .ok (a, c') → c'.offset = stop

namespace Ends

/-- A tail runs up to the end. -/
theorem tail_pure (a : α) : Ends stop (tail >>= fun _ => pure a) where
  offset_eq hc hread := by
    obtain ⟨_, c₁, htail, hpure⟩ := bind_eq_ok_iff.1 hread
    cases hpure
    obtain ⟨units, c₂, hmany, hpure⟩ := bind_eq_ok_iff.1 htail
    cases hpure
    obtain ⟨-, -, hend, -⟩ := AcceptsElement.skipUnknown.of_atMost hc (Nat.le_refl _) hmany
    exact hend

/-- A sequence runs up to the end. -/
protected theorem many {r : Reader α} {P : Nat → Element → α → Prop} (h : AcceptsElement r P) :
    Ends stop (many r) where
  offset_eq hc hread := by
    obtain ⟨-, -, hend, -⟩ := h.of_atMost hc (Nat.le_refl _) hread
    exact hend

protected theorem bind {r : Reader α} {next : α → Reader β} {g : Grammar α} (h : Accepts stop r g)
    (hnext : ∀ a, Ends stop (next a)) : Ends stop (r >>= next) where
  offset_eq hc hread := by
    obtain ⟨a, c₁, hfirst, hrest⟩ := bind_eq_ok_iff.1 hread
    obtain ⟨-, -, hc₁⟩ := h.whole hc hfirst
    exact (hnext a).offset_eq hc₁ hrest

end Ends

/-- The same bytes for the same values. -/
theorem Exhausts.congr {r : Reader α} {Q Q' : Bytes → α → Prop} (h : Exhausts stop r Q)
    (hiff : ∀ bytes a, Q bytes a ↔ Q' bytes a) : Exhausts stop r Q' where
  sound hlast hmoves hread := (h.sound hlast hmoves hread).imp_left (hiff _ _).1
  complete hlast hsize hmoves hQ := h.complete hlast hsize hmoves ((hiff _ _).2 hQ)

/-- What runs up to the end of an input takes all of it. -/
theorem Exhausts.run_eq_ok_iff {r : Reader α} {Q : Bytes → α → Prop} {input : Bytes}
    (h : Exhausts input.length r Q) (hsize : input.length < UInt64.size) {a : α} {c : Cursor} :
    r.run input = .ok (a, c) ↔ Q input a ∧ c = ⟨input.length, []⟩ := by
  have hmoves : Cursor.Moves ⟨0, input⟩ input ⟨input.length, []⟩ :=
    ⟨(List.append_nil input).symm, (Nat.zero_add _).symm⟩
  constructor
  · exact h.sound rfl hmoves
  · rintro ⟨hQ, rfl⟩
    exact h.complete rfl hsize hmoves hQ

/-- What runs up to the end takes all bytes. -/
theorem Accepts.exhausts {r : Reader α} {g : Grammar α} (h : Accepts stop r g)
    (hends : Ends stop r) :
    Exhausts stop r fun bytes a => ∃ es, bytes = concat es ∧ g es a [] where
  sound {c c' last bytes a} hlast hmoves hread := by
    have hc : c.offset ≤ stop := hlast ▸ hmoves.le
    obtain ⟨es, hmoves', -⟩ := h.whole hc hread
    obtain ⟨rfl, rfl⟩ := hmoves.eq_of_offset_eq hmoves' (hlast.trans (hends.offset_eq hc hread).symm)
    obtain ⟨rest, hg, hrest⟩ := h.sound hlast hmoves hread
    -- nothing is between the end and the end
    have hnil : rest = [] :=
      Element.concat_injective (hrest.way_eq (.refl _))
    exact ⟨⟨es, rfl, hnil ▸ hg⟩, rfl⟩
  complete {c last bytes a} hlast hsize hmoves := by
    rintro ⟨es, rfl, hg⟩
    obtain ⟨c', hread, hrest⟩ := h.complete hlast hsize hmoves hg
    cases hrest.eq_of_nil
    exact hread

/-- A grammar and then a tail. -/
theorem Accepts.exhausts_tail {r : Reader α} {g : Grammar α} (h : Accepts stop r g) (f : α → β) :
    Exhausts stop (r >>= fun a => tail >>= fun _ => pure (f a)) fun bytes b =>
      ∃ a, g.Fills bytes a ∧ b = f a := by
  have hall := h.bind fun a => Accepts.tail.bind fun _ => .pure (f a)
  refine (hall.exhausts (.bind h fun a => .tail_pure (f a))).congr fun bytes b => ?_
  constructor
  · rintro ⟨es, hbytes, a, es₁, hg, -, -, ⟨-, htail⟩, hb, -⟩
    exact ⟨a, ⟨es, es₁, hbytes, hg, htail⟩, hb⟩
  · rintro ⟨a, ⟨es, es₁, hbytes, hg, htail⟩, hb⟩
    exact ⟨es, hbytes, a, es₁, hg, (), [], ⟨rfl, htail⟩, hb, rfl⟩

/-- An element with a grammar and a tail in it. -/
theorem AcceptsElement.nested {body : Reader α} {g : (stop : Nat) → Grammar α}
    (h : ∀ stop, Accepts stop body (g stop)) (type : UInt64) :
    AcceptsElement (nested type body) fun offset e a =>
      e.type = type ∧ Contains (g (offset + e.bytes.length)) e a := by
  refine ofEnter ?_ ?_
  · intro stop c c₁ c₂ c' e a henters hread
    rw [← henters.moves.offset_eq]
    obtain ⟨-, -, -, -, hvalue⟩ := henters
    obtain ⟨⟨a, hfills, rfl⟩, rfl⟩ := ((h c₂.offset).exhausts_tail id).sound rfl hvalue hread
    exact ⟨hfills, rfl⟩
  · intro stop c c₁ c₂ e a henters hsize hcontains
    rw [← henters.moves.offset_eq] at hcontains
    obtain ⟨-, -, -, -, hvalue⟩ := henters
    exact ((h c₂.offset).exhausts_tail id).complete rfl hsize hvalue ⟨a, hcontains, rfl⟩

end Reader

end NamedData.Wire
