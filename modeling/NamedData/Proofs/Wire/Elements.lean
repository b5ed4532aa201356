import NamedData.Proofs.Wire.Reads

/-!
# Readers of one element

An `Element` is a type, a value, and the bytes that hold both, with the numbers of the header in any
form. Bytes can be cut into elements in one way only (`Element.concat_injective`).

`Reader.AcceptsElement r P` says that the reader `r` succeeds if and only if an element comes next for
which `P` gives a value, and that it moves over that element. So what a reader of one element takes
is told by `P` alone, without a word on cursors. Headers are the base (`header_sound` and
`header_complete`); what looks at an element once it is read only changes `P` (`bind_idle`).
-/

namespace NamedData.Wire

/-! ## Elements -/

/-- One whole element. -/
@[ext]
structure Element where
  type : UInt64
  value : Bytes
  /-- The header, with its numbers in any form, and the value. -/
  bytes : Bytes
  isElement : IsElementOf type value bytes

/-- A number is told by the bytes that start with one of its forms. -/
theorem NumberForm.unique {n n' : UInt64} {form form' rest rest' : Bytes} (h : NumberForm n form)
    (h' : NumberForm n' form') (heq : form ++ rest = form' ++ rest') :
    n = n' ∧ form = form' ∧ rest = rest' := by
  have hread := Reader.number_form h 0 0 rest
  rw [heq, Reader.number_form h' 0 0 rest'] at hread
  simp only [Except.ok.injEq, Prod.mk.injEq, Cursor.mk.injEq] at hread
  obtain ⟨rfl, -, rfl⟩ := hread
  exact ⟨rfl, List.append_cancel_right heq, rfl⟩

namespace Element

theorem startsWith (e : Element) : StartsWith e.type e.bytes := by
  obtain ⟨type, value, bytes, h⟩ := e
  exact h.startsWith

theorem length_bytes_pos (e : Element) : 0 < e.bytes.length :=
  List.length_pos_iff.2 e.startsWith.ne_nil

/-- The bytes that start with an element start with no other. -/
theorem unique {e e' : Element} {rest rest' : Bytes} (heq : e.bytes ++ rest = e'.bytes ++ rest') :
    e = e' ∧ rest = rest' := by
  obtain ⟨type, value, bytes, head, ⟨htype, hlength⟩, hsize, rfl⟩ := e
  obtain ⟨type', value', bytes', head', ⟨htype', hlength'⟩, hsize', rfl⟩ := e'
  simp only [List.append_assoc] at heq
  obtain ⟨rfl, hforms, heq⟩ := htype.unique htype' heq
  obtain ⟨hlengths, hforms', heq⟩ := hlength.unique hlength' heq
  have hvalues : value.length = value'.length := by
    have := congrArg UInt64.toNat hlengths
    rwa [UInt64.toNat_ofNat_of_lt' hsize, UInt64.toNat_ofNat_of_lt' hsize'] at this
  obtain ⟨rfl, rfl⟩ := List.append_inj heq hvalues
  subst hforms hforms'
  exact ⟨rfl, rfl⟩

/-- An element is told by its bytes. -/
theorem bytes_injective : Function.Injective Element.bytes := by
  intro e e' h
  exact (unique (congrArg (· ++ []) h)).1

/-- The bytes of some elements, one after the other. -/
def concat (es : List Element) : Bytes :=
  es.flatMap bytes

@[simp] theorem concat_nil : concat [] = [] := rfl

@[simp] theorem concat_cons (e : Element) (es : List Element) :
    concat (e :: es) = e.bytes ++ concat es := rfl

@[simp] theorem concat_append (es es' : List Element) :
    concat (es ++ es') = concat es ++ concat es' :=
  List.flatMap_append

theorem concat_cons_ne_nil (e : Element) (es : List Element) : concat (e :: es) ≠ [] :=
  List.append_ne_nil_of_left_ne_nil e.startsWith.ne_nil _

/-- Bytes are cut into elements in one way only. -/
theorem concat_injective {es es' : List Element} (h : concat es = concat es') : es = es' := by
  induction es generalizing es' with
  | nil =>
    cases es' with
    | nil => rfl
    | cons e' es' => exact absurd h.symm (concat_cons_ne_nil e' es')
  | cons e es ih =>
    cases es' with
    | nil => exact absurd h (concat_cons_ne_nil e es)
    | cons e' es' =>
      obtain ⟨rfl, hrest⟩ := unique h
      rw [ih hrest]

/-- Some elements whose bytes start with an element start with this one. -/
theorem exists_cons_of_concat {es : List Element} {e : Element} {after : Bytes}
    (h : concat es = e.bytes ++ after) : ∃ rest, es = e :: rest ∧ concat rest = after := by
  cases es with
  | nil => exact absurd h.symm (List.append_ne_nil_of_left_ne_nil e.startsWith.ne_nil _)
  | cons e' es =>
    obtain ⟨rfl, hrest⟩ := unique h
    exact ⟨es, rfl, hrest⟩

end Element

/-- What is written as an element tells the type and the value. -/
theorem element_inj {type type' : UInt64} {value value' : Bytes}
    (h : element type value = element type' value') : type = type' ∧ value = value' := by
  simp only [element, header, List.append_assoc] at h
  obtain ⟨htype, -, h⟩ := (numberForm_number type).unique (numberForm_number type') h
  obtain ⟨-, -, hvalue⟩ := (numberForm_number _).unique (numberForm_number _) h
  exact ⟨htype, hvalue⟩

/-- If its length is a number of 64 bits, so it does where other bytes follow. -/
theorem element_append_inj {type type' : UInt64} {value value' rest rest' : Bytes}
    (hsize : value.length < UInt64.size) (hsize' : value'.length < UInt64.size)
    (h : element type value ++ rest = element type' value' ++ rest') :
    type = type' ∧ value = value' ∧ rest = rest' := by
  let e : Element := ⟨type, value, _, _, headerForm_header type value.length, hsize, rfl⟩
  let e' : Element := ⟨type', value', _, _, headerForm_header type' value'.length, hsize', rfl⟩
  have hbytes : e.bytes ++ rest = e'.bytes ++ rest' := h
  obtain ⟨heq, hrest⟩ := Element.unique hbytes
  exact ⟨congrArg Element.type heq, congrArg Element.value heq, hrest⟩

/-! ## Moving over bytes -/

/-- From the cursor `c` some bytes lead to the cursor `c'`. -/
structure Cursor.Moves (c : Cursor) (way : Bytes) (c' : Cursor) : Prop where
  rest_eq : c.rest = way ++ c'.rest
  offset_eq : c'.offset = c.offset + way.length

namespace Cursor.Moves

variable {c c₁ c₂ : Cursor} {way way₁ way₂ : Bytes}

protected theorem refl (c : Cursor) : c.Moves [] c :=
  ⟨rfl, rfl⟩

protected theorem trans (h₁ : c.Moves way₁ c₁) (h₂ : c₁.Moves way₂ c₂) :
    c.Moves (way₁ ++ way₂) c₂ where
  rest_eq := by rw [h₁.rest_eq, h₂.rest_eq, List.append_assoc]
  offset_eq := by rw [h₂.offset_eq, h₁.offset_eq, List.length_append, Nat.add_assoc]

theorem le (h : c.Moves way c₁) : c.offset ≤ c₁.offset := by
  rw [h.offset_eq]
  exact Nat.le_add_right _ _

theorem sub_length (h : c.Moves way c₁) : c₁.offset - way.length = c.offset := by
  rw [h.offset_eq, Nat.add_sub_cancel]

/-- Where some bytes lead to is told by them. -/
theorem unique (h₁ : c.Moves way c₁) (h₂ : c.Moves way c₂) : c₁ = c₂ := by
  obtain ⟨offset₁, rest₁⟩ := c₁
  obtain ⟨offset₂, rest₂⟩ := c₂
  have hrest := List.append_cancel_left (h₁.rest_eq.symm.trans h₂.rest_eq)
  have hoffset := h₁.offset_eq.trans h₂.offset_eq.symm
  exact Cursor.mk.injEq .. ▸ ⟨hoffset, hrest⟩

/-- The bytes between two cursors are told by them. -/
theorem way_eq (h₁ : c.Moves way₁ c₁) (h₂ : c.Moves way₂ c₁) : way₁ = way₂ :=
  List.append_cancel_right (h₁.rest_eq.symm.trans h₂.rest_eq)

theorem eq_of_nil (h : c.Moves [] c₁) : c₁ = c :=
  h.unique (.refl c)

/-- What is left after a first part leads on. -/
theorem of_append (h : c.Moves (way₁ ++ way₂) c₂) (h₁ : c.Moves way₁ c₁) :
    c₁.Moves way₂ c₂ where
  rest_eq := by
    have hrest := h₁.rest_eq.symm.trans h.rest_eq
    rw [List.append_assoc] at hrest
    exact List.append_cancel_left hrest
  offset_eq := by rw [h.offset_eq, h₁.offset_eq, List.length_append, Nat.add_assoc]

/-- There is a cursor after each part of the bytes. -/
theorem exists_between (h : c.Moves (way₁ ++ way₂) c₂) :
    ∃ c₁, c.Moves way₁ c₁ ∧ c₁.Moves way₂ c₂ := by
  have h₁ : c.Moves way₁ ⟨c.offset + way₁.length, way₂ ++ c₂.rest⟩ :=
    ⟨by rw [h.rest_eq, List.append_assoc], rfl⟩
  exact ⟨_, h₁, h.of_append h₁⟩

/-- Two ways that end at one offset cover the same bytes. -/
theorem eq_of_offset_eq (h₁ : c.Moves way₁ c₁) (h₂ : c.Moves way₂ c₂)
    (hoffset : c₁.offset = c₂.offset) : way₁ = way₂ ∧ c₁ = c₂ := by
  have hlength : way₁.length = way₂.length := by
    have := h₁.offset_eq
    have := h₂.offset_eq
    omega
  obtain ⟨rfl, -⟩ := List.append_inj (h₁.rest_eq.symm.trans h₂.rest_eq) hlength
  exact ⟨rfl, h₁.unique h₂⟩

/-- The shorter of two ways is a part of the longer one. -/
theorem exists_append_of_le (h₁ : c.Moves way₁ c₁) (h₂ : c.Moves way₂ c₂)
    (hle : c₁.offset ≤ c₂.offset) : ∃ way, way₂ = way₁ ++ way ∧ c₁.Moves way c₂ := by
  have hlength : way₁.length ≤ way₂.length := by
    have := h₁.offset_eq
    have := h₂.offset_eq
    omega
  obtain ⟨way, rfl⟩ := List.prefix_of_prefix_length_le (List.prefix_append way₁ c₁.rest)
    (h₁.rest_eq.symm.trans h₂.rest_eq ▸ List.prefix_append way₂ c₂.rest) hlength
  exact ⟨way, rfl, h₂.of_append h₁⟩

end Cursor.Moves

/-- The cursor `c₁` stands between the header and the value of an element from `c` to `c₂`. -/
def Cursor.Enters (c : Cursor) (e : Element) (c₁ c₂ : Cursor) : Prop :=
  ∃ head, HeaderForm e.type e.value.length head ∧ e.bytes = head ++ e.value
    ∧ c.Moves head c₁ ∧ c₁.Moves e.value c₂

theorem Cursor.Enters.moves {c c₁ c₂ : Cursor} {e : Element} (h : c.Enters e c₁ c₂) :
    c.Moves e.bytes c₂ := by
  obtain ⟨head, -, heq, hhead, hvalue⟩ := h
  rw [heq]
  exact hhead.trans hvalue

theorem Cursor.Moves.enters {c c₂ : Cursor} {e : Element} (h : c.Moves e.bytes c₂) :
    ∃ c₁, c.Enters e c₁ c₂ := by
  obtain ⟨head, hform, -, heq⟩ := e.isElement
  rw [heq] at h
  obtain ⟨c₁, hhead, hvalue⟩ := h.exists_between
  exact ⟨c₁, head, hform, heq, hhead, hvalue⟩

namespace Reader

variable {α β : Type} {stop : Nat} {c c' c₁ c₂ : Cursor}

/-! ## Headers -/

/-- A number is read if and only if one of its forms comes next. -/
theorem number_eq_ok_iff {n : UInt64} :
    number stop c = .ok (n, c') ↔ ∃ form, NumberForm n form ∧ c.Moves form c' := by
  constructor
  · intro h
    obtain ⟨offset, _ | ⟨first, rest⟩⟩ := c
    · cases h
    simp only [number] at h
    cases hwidth : wideWidth? first with
    | none =>
      rw [hwidth] at h
      cases h
      have hnarrow : first.toUInt64.toNat < 253 := by
        rw [UInt8.toNat_toUInt64]
        have hmarkers : first ≠ 253 ∧ first ≠ 254 ∧ first ≠ 255 := by
          refine ⟨?_, ?_, ?_⟩ <;>
          · rintro rfl
            cases hwidth
        simp only [ne_eq, ← UInt8.toNat_inj, UInt8.reduceToNat] at hmarkers
        have hlt := first.toNat_lt
        omega
      have hform : Bytes.bigEndian 1 first.toUInt64.toNat = [first] := by
        rw [UInt8.toNat_toUInt64]
        show [UInt8.ofNat first.toNat] = _
        rw [UInt8.ofNat_toNat]
      exact ⟨[first], hform ▸ .narrow hnarrow, rfl, rfl⟩
    | some width =>
      rw [hwidth] at h
      dsimp only at h
      split at h
      · cases h
      next hlong =>
      cases h
      have hlength : (rest.take width).length = width :=
        List.length_take_of_le (Nat.le_of_not_lt hlong)
      have hlt := Bytes.ofBigEndian_lt (rest.take width)
      rw [hlength] at hlt
      have hvalue : (UInt64.ofNat (Bytes.ofBigEndian (rest.take width))).toNat
          = Bytes.ofBigEndian (rest.take width) := by
        refine UInt64.toNat_ofNat_of_lt' (Nat.lt_of_lt_of_le hlt ?_)
        rcases wideWidth?_eq_some hwidth with rfl | rfl | rfl <;> decide
      refine ⟨first :: rest.take width, ?_, ?_, ?_⟩
      · have hwide := NumberForm.wide hwidth (hvalue.symm ▸ hlt)
        rwa [hvalue, Bytes.bigEndian_ofBigEndian hlength] at hwide
      · rw [List.cons_append, List.take_append_drop]
      · show offset + 1 + width = offset + (first :: rest.take width).length
        rw [List.length_cons, hlength]
        omega
  · rintro ⟨form, hform, hmoves⟩
    obtain ⟨offset, rest⟩ := c
    obtain ⟨offset', rest'⟩ := c'
    obtain ⟨hrest, hoffset⟩ := hmoves
    dsimp only at hrest hoffset
    subst hrest hoffset
    exact number_form hform stop offset rest'

/-- A header that is read is that of an element in the surrounding one. -/
theorem header_sound {type : UInt64} {last : Nat} (h : header stop c = .ok ((type, last), c₁)) :
    ∃ e c₂, e.type = type ∧ c.Enters e c₁ c₂ ∧ c₂.offset = last ∧ last ≤ stop := by
  unfold header at h
  cases htype : number stop c with
  | error e =>
    rw [htype] at h
    cases h
  | ok p =>
    obtain ⟨type', middle⟩ := p
    rw [htype] at h
    cases hlength : number stop middle with
    | error e =>
      simp only [bind, Except.bind, hlength] at h
      cases h
    | ok p =>
      obtain ⟨length, c₁'⟩ := p
      simp only [bind, Except.bind, hlength] at h
      split at h
      · cases h
      split at h
      · cases h
      split at h
      · cases h
      next hsize hinput hstop =>
      cases h
      obtain ⟨typeForm, htypeForm, htypeMoves⟩ := number_eq_ok_iff.1 htype
      obtain ⟨lengthForm, hlengthForm, hlengthMoves⟩ := number_eq_ok_iff.1 hlength
      -- the value is what lies between the header and the end that it announces
      have hvalue : (c₁.rest.take length.toNat).length = length.toNat := by
        refine List.length_take_of_le ?_
        rw [Cursor.inputEnd] at hinput
        omega
      have hform : HeaderForm type (c₁.rest.take length.toNat).length (typeForm ++ lengthForm) :=
        .mk htypeForm (by rw [hvalue, UInt64.ofNat_toNat]; exact hlengthForm)
      refine ⟨⟨type, c₁.rest.take length.toNat, _, _, hform, ?_, rfl⟩,
        ⟨c₁.offset + length.toNat, c₁.rest.drop length.toNat⟩, rfl, ?_, rfl, Nat.le_of_not_lt hstop⟩
      · rw [hvalue]
        exact length.toNat_lt
      · refine ⟨_, hform, rfl, htypeMoves.trans hlengthMoves, ?_, ?_⟩
        · exact (List.take_append_drop _ _).symm
        · rw [hvalue]

/-- The header of an element in the surrounding one is read. -/
theorem header_complete {e : Element} (h : c.Enters e c₁ c₂) (hstop : c₂.offset ≤ stop)
    (hsize : stop < UInt64.size) : header stop c = .ok ((e.type, c₂.offset), c₁) := by
  obtain ⟨head, hform, -, hhead, hvalue⟩ := h
  generalize e.value = value at hform hvalue
  obtain ⟨htype, hlength⟩ := hform
  next typeForm lengthForm =>
  obtain ⟨middle, htypeMoves, hlengthMoves⟩ := hhead.exists_between
  have hend := hvalue.offset_eq
  have hrest := congrArg List.length hvalue.rest_eq
  rw [List.length_append] at hrest
  have htoNat : (UInt64.ofNat value.length).toNat = value.length :=
    UInt64.toNat_ofNat_of_lt' (by omega)
  simp only [header, number_eq_ok_iff.2 ⟨_, htype, htypeMoves⟩,
    number_eq_ok_iff.2 ⟨_, hlength, hlengthMoves⟩, bind, Except.bind, htoNat, Cursor.inputEnd]
  rw [if_neg (by omega), if_neg (by omega), if_neg (by omega), hend]

/-- The bytes of a value are read up to its end. -/
theorem upTo_eq {value : Bytes} (h : c₁.Moves value c₂) :
    upTo c₂.offset stop c₁ = .ok (value, c₂) := by
  obtain ⟨offset, rest⟩ := c₁
  obtain ⟨offset', rest'⟩ := c₂
  obtain ⟨hrest, hoffset⟩ := h
  dsimp only at hrest hoffset
  subst hrest hoffset
  simp only [upTo, Nat.add_sub_cancel_left, List.take_left, List.drop_left]

theorem enter_eq_ok_iff {type : UInt64} {last : Nat} :
    enter type stop c = .ok (last, c₁) ↔ header stop c = .ok ((type, last), c₁) := by
  simp only [enter, bind_eq_ok_iff, offset]
  constructor
  · rintro ⟨_, _, hoffset, ⟨type', last'⟩, c₁', hheader, hif⟩
    cases hoffset
    dsimp only at hif
    split at hif
    · next htype =>
      cases hif
      rw [← htype]
      exact hheader
    · cases hif
  · intro hheader
    refine ⟨_, _, rfl, (type, last), c₁, hheader, ?_⟩
    exact if_pos rfl ▸ rfl

/-! ## Readers that take an element -/

/-- Reader `r` succeeds if and only if an element in the surrounding one comes next that `P` gives a
value for, by the offset at which it stands, and moves over it. -/
structure AcceptsElement (r : Reader α) (P : (offset : Nat) → Element → α → Prop) : Prop where
  sound {stop : Nat} {c c' : Cursor} {a : α} : r stop c = .ok (a, c') →
    ∃ e, P c.offset e a ∧ c.Moves e.bytes c' ∧ c'.offset ≤ stop
  complete {stop : Nat} {c c' : Cursor} {e : Element} {a : α} : P c.offset e a →
    c.Moves e.bytes c' → c'.offset ≤ stop → stop < UInt64.size → r stop c = .ok (a, c')

/-- Reader `r` takes nothing and gives the values of `Q`. -/
structure Idle (r : Reader α) (Q : α → Prop) : Prop where
  iff {stop : Nat} {c c' : Cursor} {a : α} : r stop c = .ok (a, c') ↔ Q a ∧ c' = c

namespace Idle

/-- The same values. -/
theorem congr {r : Reader α} {Q Q' : α → Prop} (h : Idle r Q) (hiff : ∀ a, Q a ↔ Q' a) :
    Idle r Q' where
  iff := h.iff.trans (and_congr_left fun _ => hiff _)

protected theorem pure (a : α) : Idle (pure a) (· = a) where
  iff {stop c c' b} := by
    rw [pure_apply]
    constructor
    · rintro ⟨⟩
      exact ⟨rfl, rfl⟩
    · rintro ⟨rfl, rfl⟩
      rfl

protected theorem fail (e : DecodingError) : Idle (fail e : Reader α) fun _ => False where
  iff := ⟨nofun, nofun⟩

protected theorem lift (result : Except DecodingError α) :
    Idle (lift result) (result = .ok ·) where
  iff {stop c c' b} := by
    cases result with
    | error e => exact ⟨nofun, nofun⟩
    | ok a =>
      constructor
      · rintro ⟨⟩
        exact ⟨rfl, rfl⟩
      · rintro ⟨⟨⟩, rfl⟩
        rfl

protected theorem ite {p : Prop} [Decidable p] {r r' : Reader α} {Q Q' : α → Prop} (h : Idle r Q)
    (h' : Idle r' Q') : Idle (if p then r else r') fun a => if p then Q a else Q' a where
  iff := by
    split
    · exact h.iff
    · exact h'.iff

end Idle

namespace AcceptsElement

variable {r : Reader α} {P : Nat → Element → α → Prop}

/-- What looks at the value that was read decides on the value that is given. -/
theorem bind_idle {next : α → Reader β} {Q : α → β → Prop} (h : AcceptsElement r P)
    (hnext : ∀ a, Idle (next a) (Q a)) :
    AcceptsElement (r >>= next) fun offset e b => ∃ a, P offset e a ∧ Q a b where
  sound hread := by
    obtain ⟨a, c₁, hfirst, hrest⟩ := bind_eq_ok_iff.1 hread
    obtain ⟨hQ, rfl⟩ := (hnext a).iff.1 hrest
    obtain ⟨e, hP, hmoves, hstop⟩ := h.sound hfirst
    exact ⟨e, ⟨a, hP, hQ⟩, hmoves, hstop⟩
  complete := by
    rintro stop c c' e b ⟨a, hP, hQ⟩ hmoves hstop hsize
    exact bind_eq_ok_iff.2 ⟨a, c', h.complete hP hmoves hstop hsize, (hnext a).iff.2 ⟨hQ, rfl⟩⟩

protected theorem map (f : α → β) (h : AcceptsElement r P) :
    AcceptsElement (f <$> r) fun offset e b => ∃ a, P offset e a ∧ b = f a :=
  h.bind_idle fun a => .pure (f a)

/-- The same elements for the same values. -/
theorem congr {P' : Nat → Element → α → Prop} (h : AcceptsElement r P)
    (hiff : ∀ offset e a, P offset e a ↔ P' offset e a) : AcceptsElement r P' where
  sound hread := by
    obtain ⟨e, hP, hrest⟩ := h.sound hread
    exact ⟨e, (hiff _ e _).1 hP, hrest⟩
  complete hP := h.complete ((hiff _ _ _).2 hP)

/-- What reads on after a header decides on the element by its value. -/
theorem ofHeader {next : UInt64 × Nat → Reader α}
    (hsound : ∀ {stop : Nat} {c c₁ c₂ c' : Cursor} {e : Element} {a : α}, c.Enters e c₁ c₂ →
      next (e.type, c₂.offset) stop c₁ = .ok (a, c') → P c.offset e a ∧ c' = c₂)
    (hcomplete : ∀ {stop : Nat} {c c₁ c₂ : Cursor} {e : Element} {a : α}, c.Enters e c₁ c₂ →
      c₂.offset < UInt64.size → P c.offset e a →
        next (e.type, c₂.offset) stop c₁ = .ok (a, c₂)) :
    AcceptsElement (header >>= next) P where
  sound {stop c c' a} hread := by
    obtain ⟨⟨type, last⟩, c₁, hheader, hnext⟩ := bind_eq_ok_iff.1 hread
    obtain ⟨e, c₂, rfl, henters, rfl, hstop⟩ := header_sound hheader
    obtain ⟨hP, rfl⟩ := hsound henters hnext
    exact ⟨e, hP, henters.moves, hstop⟩
  complete {stop c c' e a} hP hmoves hstop hsize := by
    obtain ⟨c₁, henters⟩ := hmoves.enters
    exact bind_eq_ok_iff.2 ⟨_, c₁, header_complete henters hstop hsize,
      hcomplete henters (Nat.lt_of_le_of_lt hstop hsize) hP⟩

/-- An element of any type. -/
protected theorem any : AcceptsElement any fun _ e p => p = (e.type, e.value) := by
  refine ofHeader ?_ ?_
  · rintro stop c c₁ c₂ c' e p ⟨-, -, -, -, hvalue⟩ hnext
    obtain ⟨value, c₃, hread, hpure⟩ := bind_eq_ok_iff.1 hnext
    rw [upTo_eq hvalue] at hread
    cases hread
    cases hpure
    exact ⟨rfl, rfl⟩
  · rintro stop c c₁ c₂ e p ⟨-, -, -, -, hvalue⟩ - rfl
    exact bind_eq_ok_iff.2 ⟨_, c₂, upTo_eq hvalue, rfl⟩

/-- An unknown element that may be skipped. -/
protected theorem skipUnknown :
    AcceptsElement skipUnknown fun _ e _ => ElementType.isCritical e.type = false := by
  refine ofHeader ?_ ?_
  · rintro stop c c₁ c₂ c' e p ⟨-, -, -, -, hvalue⟩ hnext
    dsimp only at hnext
    split at hnext
    · obtain ⟨_, _, hfail, -⟩ := bind_eq_ok_iff.1 hnext
      cases hfail
    next hnot =>
    obtain ⟨value, c₃, hread, hpure⟩ := bind_eq_ok_iff.1 hnext
    rw [upTo_eq hvalue] at hread
    cases hread
    cases hpure
    exact ⟨Bool.eq_false_iff.2 hnot, rfl⟩
  · rintro stop c c₁ c₂ e p ⟨-, -, -, -, hvalue⟩ - hnot
    dsimp only
    rw [if_neg (Bool.eq_false_iff.1 hnot)]
    exact bind_eq_ok_iff.2 ⟨_, c₂, upTo_eq hvalue, rfl⟩

/-- What reads on after the header of an element of the given type. -/
theorem ofEnter {type : UInt64} {next : Nat → Reader α}
    (hsound : ∀ {stop : Nat} {c c₁ c₂ c' : Cursor} {e : Element} {a : α}, c.Enters e c₁ c₂ →
      next c₂.offset stop c₁ = .ok (a, c') → P c.offset e a ∧ c' = c₂)
    (hcomplete : ∀ {stop : Nat} {c c₁ c₂ : Cursor} {e : Element} {a : α}, c.Enters e c₁ c₂ →
      c₂.offset < UInt64.size → P c.offset e a → next c₂.offset stop c₁ = .ok (a, c₂)) :
    AcceptsElement (enter type >>= next) fun offset e a => e.type = type ∧ P offset e a where
  sound {stop c c' a} hread := by
    obtain ⟨last, c₁, henter, hnext⟩ := bind_eq_ok_iff.1 hread
    obtain ⟨e, c₂, htype, henters, rfl, hstop⟩ := header_sound (enter_eq_ok_iff.1 henter)
    obtain ⟨hP, rfl⟩ := hsound henters hnext
    exact ⟨e, ⟨htype, hP⟩, henters.moves, hstop⟩
  complete {stop c c' e a} := by
    rintro ⟨rfl, hP⟩ hmoves hstop hsize
    obtain ⟨c₁, henters⟩ := hmoves.enters
    exact bind_eq_ok_iff.2 ⟨_, c₁, enter_eq_ok_iff.2 (header_complete henters hstop hsize),
      hcomplete henters (Nat.lt_of_le_of_lt hstop hsize) hP⟩

/-- An element of the given type. -/
protected theorem blob (type : UInt64) :
    AcceptsElement (blob type) fun _ e value => e.type = type ∧ value = e.value := by
  refine ofEnter (P := fun _ e value => value = e.value) ?_ ?_
  · rintro stop c c₁ c₂ c' e value ⟨-, -, -, -, hvalue⟩ hread
    rw [upTo_eq hvalue] at hread
    cases hread
    exact ⟨rfl, rfl⟩
  · rintro stop c c₁ c₂ e value ⟨-, -, -, -, hvalue⟩ - rfl
    exact upTo_eq hvalue

/-- What an element was read from are its bytes. -/
protected theorem withBytes (h : AcceptsElement r P) :
    AcceptsElement (withBytes r) fun offset e p => P offset e p.1 ∧ p.2 = e.bytes where
  sound {stop c c' p} hread := by
    unfold Reader.withBytes at hread
    cases hr : r stop c with
    | error e =>
      rw [hr] at hread
      cases hread
    | ok q =>
      obtain ⟨a, c₁⟩ := q
      rw [hr] at hread
      cases hread
      obtain ⟨e, hP, hmoves, hstop⟩ := h.sound hr
      refine ⟨e, ⟨hP, ?_⟩, hmoves, hstop⟩
      rw [hmoves.rest_eq, hmoves.offset_eq, Nat.add_sub_cancel_left, List.take_left]
  complete {stop c c' e p} hp hmoves hstop hsize := by
    obtain ⟨a, bytes⟩ := p
    obtain ⟨hP, rfl⟩ := hp
    simp only [Reader.withBytes, h.complete hP hmoves hstop hsize, Except.map, hmoves.offset_eq,
      Nat.add_sub_cancel_left, hmoves.rest_eq, List.take_left]

/-- What is read from the start of an input is told by the element that the input starts with. -/
theorem run_eq_ok_iff (h : AcceptsElement r P) {input : Bytes} (hsize : input.length < UInt64.size)
    {a : α} : r.run input = .ok (a, c)
      ↔ ∃ e, P 0 e a ∧ input = e.bytes ++ c.rest ∧ c.offset = e.bytes.length := by
  constructor
  · intro hread
    obtain ⟨e, hP, ⟨hrest, hoffset⟩, -⟩ := h.sound hread
    exact ⟨e, hP, hrest, hoffset.trans (Nat.zero_add _)⟩
  · rintro ⟨e, hP, rfl, hoffset⟩
    have hmoves : Cursor.Moves ⟨0, e.bytes ++ c.rest⟩ e.bytes c :=
      ⟨rfl, hoffset.trans (Nat.zero_add _).symm⟩
    refine h.complete hP hmoves ?_ hsize
    rw [hoffset, List.length_append]
    exact Nat.le_add_right _ _

end AcceptsElement

end Reader

end NamedData.Wire
