import NamedData.Proofs.Results
import NamedData.Wire.Reader

/-!
# What readers take

`Reader.Reads r offset written after a` says that the reader `r` takes exactly the bytes `written` and
gives `a`, if `after` is what follows them up to the end of the surrounding element; what lies beyond
that end does not matter. The offset is a part of it since some readers give offsets, and the bytes
that follow are since others look ahead. Readers in sequence take what they take one after the other
(`Reads.bind`), so that the grammar of a packet is read off the text of its reader.

Type and length numbers have several forms on the wire (`NumberForm`), of which writers take the
shortest. Readers take them all.
-/

namespace NamedData

namespace Wire

/-! ## Forms of numbers and headers -/

/-- The forms in which a type or length number is read. -/
inductive NumberForm : UInt64 → Bytes → Prop where
  | narrow {n : UInt64} (h : n.toNat < 253) : NumberForm n (Bytes.bigEndian 1 n.toNat)
  | wide {n : UInt64} {first : UInt8} {width : Nat} (hwidth : Reader.wideWidth? first = some width)
      (h : n.toNat < Nat.pow 256 width) : NumberForm n (first :: Bytes.bigEndian width n.toNat)

theorem NumberForm.length_pos {n : UInt64} {form : Bytes} (h : NumberForm n form) :
    0 < form.length := by
  cases h with
  | narrow => exact Nat.one_pos
  | wide => exact Nat.succ_pos _

/-- The shortest form is one of them. -/
theorem numberForm_number (n : UInt64) : NumberForm n (number n) := by
  have hn := n.toNat_lt
  unfold number
  split
  · next h => exact .narrow h
  split
  · next h => exact .wide rfl h
  split
  · next h => exact .wide rfl h
  · exact .wide rfl hn

/-- A header for a value of the given length: both numbers, each in any form. -/
inductive HeaderForm (type : UInt64) (length : Nat) : Bytes → Prop where
  | mk {typeForm lengthForm : Bytes} (htype : NumberForm type typeForm)
      (hlength : NumberForm (UInt64.ofNat length) lengthForm) :
      HeaderForm type length (typeForm ++ lengthForm)

theorem headerForm_header (type : UInt64) (length : Nat) :
    HeaderForm type length (header type length) :=
  .mk (numberForm_number type) (numberForm_number _)

/-- One whole element of the given type and value, with the numbers of its header in any form. -/
def IsElementOf (type : UInt64) (value bytes : Bytes) : Prop :=
  ∃ head, HeaderForm type value.length head ∧ value.length < UInt64.size ∧ bytes = head ++ value

/-- One whole element of the given type. -/
def IsElement (type : UInt64) (bytes : Bytes) : Prop :=
  ∃ value, IsElementOf type value bytes

/-! ## What comes next -/

/-- The bytes start with the number of an element type. -/
def StartsWith (type : UInt64) (bytes : Bytes) : Prop :=
  ∃ form rest, NumberForm type form ∧ bytes = form ++ rest

/-- There are no bytes, or they start with an element of one of some types. -/
def StartsIn (types : List UInt64) (bytes : Bytes) : Prop :=
  bytes = [] ∨ ∃ type ∈ types, StartsWith type bytes

theorem HeaderForm.startsWith {type : UInt64} {length : Nat} {head : Bytes}
    (h : HeaderForm type length head) (value : Bytes) : StartsWith type (head ++ value) := by
  obtain ⟨htype, -⟩ := h
  exact ⟨_, _, htype, List.append_assoc _ _ _⟩

theorem startsWith_element (type : UInt64) (value : Bytes) : StartsWith type (element type value) :=
  (headerForm_header type value.length).startsWith value

theorem StartsWith.ne_nil {type : UInt64} {bytes : Bytes} (h : StartsWith type bytes) :
    bytes ≠ [] := by
  obtain ⟨form, rest, hform, rfl⟩ := h
  exact List.append_ne_nil_of_left_ne_nil (List.ne_nil_of_length_pos hform.length_pos) rest

theorem length_le_element (type : UInt64) (value : Bytes) :
    value.length ≤ (element type value).length := by
  rw [element, List.length_append]
  exact Nat.le_add_left _ _

theorem isElement_element {type : UInt64} {value : Bytes}
    (h : (element type value).length < UInt64.size) : IsElement type (element type value) :=
  ⟨value, _, headerForm_header type _, Nat.lt_of_le_of_lt (length_le_element type value) h, rfl⟩

theorem IsElementOf.startsWith {type : UInt64} {value bytes : Bytes}
    (h : IsElementOf type value bytes) : StartsWith type bytes := by
  obtain ⟨head, hhead, -, rfl⟩ := h
  exact hhead.startsWith value

theorem StartsWith.append {type : UInt64} {bytes : Bytes} (h : StartsWith type bytes)
    (after : Bytes) : StartsWith type (bytes ++ after) := by
  obtain ⟨form, rest, hform, rfl⟩ := h
  exact ⟨form, rest ++ after, hform, List.append_assoc _ _ _⟩

namespace StartsIn

variable {type : UInt64} {types types' : List UInt64} {bytes after : Bytes}

theorem nil : StartsIn [] [] :=
  .inl rfl

theorem ofElement (type : UInt64) (value : Bytes) : StartsIn [type] (element type value) :=
  .inr ⟨type, List.mem_singleton_self type, startsWith_element type value⟩

/-- What may be missing gives way to what follows. -/
theorem append (h : StartsIn types bytes) (hafter : StartsIn types' after) :
    StartsIn (types ++ types') (bytes ++ after) := by
  rcases h with rfl | ⟨type, hmem, hstart⟩
  · rcases hafter with rfl | ⟨type, hmem, hstart⟩
    · exact .inl rfl
    · exact .inr ⟨type, List.mem_append_right types hmem, hstart⟩
  · exact .inr ⟨type, List.mem_append_left types' hmem, hstart.append after⟩

theorem integerElement? (type : UInt64) (n : Option UInt64) :
    StartsIn [type] (Wire.integerElement? type n) := by
  cases n with
  | none => exact .inl rfl
  | some n => exact ofElement type _

end StartsIn

namespace Reader

variable {α β γ : Type}

/-- Reader `r` takes `written` at `offset` and gives `a`, where `after` follows up to the end of the
surrounding element. -/
def Reads (r : Reader α) (offset : Nat) (written after : Bytes) (a : α) : Prop :=
  ∀ beyond, offset + (written ++ after).length < UInt64.size →
    r (offset + (written ++ after).length) ⟨offset, written ++ (after ++ beyond)⟩
      = .ok (a, ⟨offset + written.length, after ++ beyond⟩)

/-- A number is read from any of its forms. -/
theorem number_form {n : UInt64} {form : Bytes} (h : NumberForm n form) (stop offset : Nat)
    (rest : Bytes) :
    number stop ⟨offset, form ++ rest⟩ = .ok (n, ⟨offset + form.length, rest⟩) := by
  cases h with
  | narrow h =>
    -- a number below the three markers of wider forms is its own byte
    have hbyte : (UInt8.ofNat n.toNat).toNat = n.toNat := by
      rw [UInt8.toNat_ofNat', Nat.mod_eq_of_lt (by omega)]
    have hwidth : wideWidth? (UInt8.ofNat n.toNat) = none := by
      have hne : ∀ marker : UInt8, 253 ≤ marker.toNat → UInt8.ofNat n.toNat ≠ marker := by
        rintro marker hmarker rfl
        omega
      rw [wideWidth?, if_neg (hne 253 (by decide)), if_neg (hne 254 (by decide)),
        if_neg (hne 255 (by decide))]
    have hvalue : (UInt8.ofNat n.toNat).toUInt64 = n := by
      rw [← UInt64.toNat_inj, UInt8.toNat_toUInt64, hbyte]
    have hform : Bytes.bigEndian 1 n.toNat = [UInt8.ofNat n.toNat] := rfl
    rw [hform]
    simp only [number, List.singleton_append, hwidth, hvalue, List.length_singleton]
  | @wide first width hwidth h =>
    have hlength := Bytes.length_bigEndian width n.toNat
    have hshort : ¬ (Bytes.bigEndian width n.toNat ++ rest).length < width := by
      rw [List.length_append, hlength]
      omega
    have htake : (Bytes.bigEndian width n.toNat ++ rest).take width = Bytes.bigEndian width n.toNat :=
      List.take_left' hlength
    have hdrop : (Bytes.bigEndian width n.toNat ++ rest).drop width = rest :=
      List.drop_left' hlength
    simp only [number, List.cons_append, hwidth, if_neg hshort, htake, hdrop,
      Bytes.ofBigEndian_bigEndian h, UInt64.ofNat_toNat, List.length_cons, hlength]
    rw [Nat.add_assoc, Nat.add_comm 1 width]

namespace Reads

variable {offset : Nat} {written written' after : Bytes} {a : α} {b : β}

/-! ## Sequences of readers -/

protected theorem pure (a : α) : Reads (pure a) offset [] after a :=
  fun _ _ => rfl

protected theorem bind {r : Reader α} {next : α → Reader β}
    (h : Reads r offset written (written' ++ after) a)
    (hnext : Reads (next a) (offset + written.length) written' after b) :
    Reads (r >>= next) offset (written ++ written') after b := by
  intro beyond hsize
  -- both readers run up to the same end
  have hstop : offset + written.length + (written' ++ after).length
      = offset + (written ++ written' ++ after).length := by
    simp only [List.length_append]
    omega
  rw [bind_eq_ok_iff]
  refine ⟨a, ⟨offset + written.length, written' ++ (after ++ beyond)⟩, ?_, ?_⟩
  · have := h beyond (by rw [← List.append_assoc]; exact hsize)
    simpa only [List.append_assoc] using this
  · have := hnext beyond (by rw [hstop]; exact hsize)
    rw [hstop] at this
    rw [this, List.length_append, Nat.add_assoc]

/-- The first of two readers takes nothing. -/
protected theorem bind_left {r : Reader α} {next : α → Reader β}
    (h : Reads r offset [] (written ++ after) a) (hnext : Reads (next a) offset written after b) :
    Reads (r >>= next) offset written after b :=
  .bind h hnext

/-- The second of two readers takes nothing. -/
protected theorem bind_right {r : Reader α} {next : α → Reader β}
    (h : Reads r offset written after a)
    (hnext : Reads (next a) (offset + written.length) [] after b) :
    Reads (r >>= next) offset written after b := by
  have hbind : Reads (r >>= next) offset (written ++ []) after b := .bind h hnext
  rw [List.append_nil] at hbind
  exact hbind

protected theorem map {r : Reader α} (f : α → β) (h : Reads r offset written after a) :
    Reads (f <$> r) offset written after (f a) :=
  show Reads (r >>= pure ∘ f) offset written after (f a) from .bind_right h (.pure (f a))

theorem offset_self : Reads Reader.offset offset [] after offset :=
  fun _ _ => rfl

protected theorem lift {result : Except DecodingError α} (h : result = .ok a) :
    Reads (lift result) offset [] after a := by
  subst h
  exact fun _ _ => rfl

/-- The bytes that were taken are at hand afterwards. -/
protected theorem withBytes {r : Reader α} (h : Reads r offset written after a) :
    Reads (withBytes r) offset written after (a, written) := by
  intro beyond hsize
  simp only [Reader.withBytes, h beyond hsize, Except.map, Nat.add_sub_cancel_left,
    List.take_left]

/-! ## Elements -/

variable {type : UInt64} {head value : Bytes}

/-- A header is read if the value that it announces follows. -/
protected theorem header (h : HeaderForm type value.length head) :
    Reads header offset head (value ++ after) (type, offset + head.length + value.length) := by
  intro beyond hsize
  obtain ⟨htype, hlength⟩ := h
  next typeForm lengthForm =>
  rw [List.append_assoc] at hsize ⊢
  have hvalue : (UInt64.ofNat value.length).toNat = value.length := by
    simp only [List.length_append] at hsize
    rw [UInt64.toNat_ofNat_of_lt' (by omega)]
  simp only [Reader.header, List.append_assoc, number_form htype, number_form hlength, bind,
    Except.bind, hvalue, Cursor.inputEnd]
  simp only [List.length_append] at hsize ⊢
  rw [if_neg (by omega), if_neg (by omega), if_neg (by omega)]
  rw [Nat.add_assoc offset]

protected theorem upTo : Reads (upTo (offset + value.length)) offset value after value := by
  intro beyond _
  simp only [upTo, Nat.add_sub_cancel_left, List.take_left, List.drop_left]

/-- An element of any type. -/
protected theorem any (h : HeaderForm type value.length head) :
    Reads any offset (head ++ value) after (type, value) := by
  exact .bind (.header h) (.bind_right .upTo (.pure (type, value)))

protected theorem enter (h : HeaderForm type value.length head) :
    Reads (enter type) offset head (value ++ after) (offset + head.length + value.length) := by
  refine .bind_left .offset_self (.bind_right (.header h) ?_)
  show Reads (if type = type then pure _ else fail _) _ _ _ _
  rw [if_pos rfl]
  exact .pure _

/-- An element of the type that is asked for. -/
protected theorem blob (h : HeaderForm type value.length head) :
    Reads (blob type) offset (head ++ value) after value :=
  .bind (.enter h) .upTo

/-- An element whose value is a number, in any of its lengths. -/
theorem integer_form {n : UInt64} (h : HeaderForm type value.length head)
    (hvalue : Integer.decode? value = some n) :
    Reads (integer type) offset (head ++ value) after n := by
  have hdecode : Integer.decode value = .ok n := by rw [Integer.decode, hvalue]
  exact .bind_right (.blob h) (.lift hdecode)

protected theorem integer (n : UInt64) :
    Reads (integer type) offset (integerElement type n) after n :=
  integer_form (headerForm_header type _) (Integer.decode?_encode n)

/-! ## Elements made of elements -/

/-- Inside an element, what is not read of its value is followed by what follows the element. -/
protected theorem within_part {r : Reader α} {rest : Bytes}
    (h : Reads r offset written rest a) :
    Reads (within (offset + (written ++ rest).length) r) offset written (rest ++ after) a := by
  intro beyond hsize
  have hinside := h (after ++ beyond) (by
    simp only [List.length_append] at hsize ⊢
    omega)
  rw [List.append_assoc]
  exact hinside

/-- Inside an element nothing follows its value. -/
protected theorem within {r : Reader α} (h : Reads r offset value [] a) :
    Reads (within (offset + value.length) r) offset value after a := by
  have hinside : Reads (within (offset + (value ++ []).length) r) offset value ([] ++ after) a :=
    .within_part h
  rw [List.append_nil, List.nil_append] at hinside
  exact hinside

/-- The items of a sequence, each read at the offset where it stands. -/
def placed (read : Nat → β → γ) (write : β → Bytes) : (offset : Nat) → List β → List γ
  | _, [] => []
  | offset, x :: xs => read offset x :: placed read write (offset + (write x).length) xs

private theorem atMost_flatMap {item : Reader γ} {read : Nat → β → γ} {write : β → Bytes}
    {xs : List β} (hne : ∀ x ∈ xs, write x ≠ [])
    (hitem : ∀ x ∈ xs, ∀ offset after, Reads item offset (write x) after (read offset x))
    (beyond : Bytes) (count offset : Nat) (hcount : (xs.flatMap write).length ≤ count)
    (hsize : offset + (xs.flatMap write).length < UInt64.size) :
    atMost item count (offset + (xs.flatMap write).length) ⟨offset, xs.flatMap write ++ beyond⟩
      = .ok (placed read write offset xs, ⟨offset + (xs.flatMap write).length, beyond⟩) := by
  induction xs generalizing count offset with
  | nil =>
    cases count with
    | zero => rfl
    | succ count =>
      rw [atMost]
      exact if_pos (Nat.le_refl offset)
  | cons x xs ih =>
    have hpos := List.length_pos_iff.2 (hne x List.mem_cons_self)
    rw [List.flatMap_cons] at hcount hsize ⊢
    have hfirst := hitem x List.mem_cons_self offset (xs.flatMap write) beyond hsize
    rw [List.length_append] at hcount
    cases count with
    | zero => omega
    | succ count =>
      -- an item takes at least one byte, so that a bound for the rest is left
      have hrest := ih (fun y hy => hne y (List.mem_cons_of_mem _ hy))
        (fun y hy => hitem y (List.mem_cons_of_mem _ hy)) count (offset + (write x).length) (by omega)
        (by rw [List.length_append] at hsize; omega)
      rw [Nat.add_assoc, ← List.length_append] at hrest
      have hstop : ¬ offset + (write x ++ xs.flatMap write).length ≤ offset := by
        rw [List.length_append]
        omega
      simp only [atMost, List.append_assoc, if_neg hstop, hfirst, hrest, Except.map, placed]

/-- A sequence of items up to the end of the surrounding element. -/
protected theorem many {item : Reader γ} {read : Nat → β → γ} {write : β → Bytes} {xs : List β}
    (hne : ∀ x ∈ xs, write x ≠ [])
    (hitem : ∀ x ∈ xs, ∀ offset after, Reads item offset (write x) after (read offset x)) :
    Reads (many item) offset (xs.flatMap write) [] (placed read write offset xs) := by
  intro beyond hsize
  rw [List.append_nil] at hsize ⊢
  rw [many]
  refine atMost_flatMap hne hitem beyond _ offset ?_ hsize
  exact Nat.le_of_eq (Nat.add_sub_cancel_left offset _).symm

theorem placed_const (f : β → γ) (write : β → Bytes) (offset : Nat) (xs : List β) :
    placed (fun _ x => f x) write offset xs = xs.map f := by
  induction xs generalizing offset with
  | nil => rfl
  | cons x xs ih => exact congrArg (f x :: ·) (ih _)

/-- What is read of items together with their offsets. -/
theorem placed_snd (f : β → γ) (write : β → Bytes) (offset : Nat) (xs : List β) :
    (placed (fun offset x => (offset, f x)) write offset xs).map Prod.snd = xs.map f := by
  induction xs generalizing offset with
  | nil => rfl
  | cons x xs ih => exact congrArg (f x :: ·) (ih _)

/-- The last item stands after all others. -/
theorem placed_last (f : β → γ) (write : β → Bytes) (offset : Nat) (xs : List β) :
    ((placed (fun offset x => (offset, f x)) write offset xs).getLast?.map Prod.fst).getD offset
      = offset + (xs.dropLast.flatMap write).length := by
  cases xs with
  | nil => rfl
  | cons x xs =>
    induction xs generalizing offset x with
    | nil => rfl
    | cons y xs ih =>
      have hrest := ih (offset + (write x).length) y
      rw [List.dropLast_cons_cons, List.flatMap_cons, List.length_append, ← Nat.add_assoc, ← hrest]
      simp only [placed, List.getLast?_cons, Option.map_some, Option.getD_some]

/-- A sequence of items that do not depend on where they stand. -/
theorem many_map {item : Reader γ} {read : β → γ} {write : β → Bytes} {xs : List β}
    (hne : ∀ x ∈ xs, write x ≠ [])
    (hitem : ∀ x ∈ xs, ∀ offset after, Reads item offset (write x) after (read x)) :
    Reads (many item) offset (xs.flatMap write) [] (xs.map read) := by
  rw [← placed_const read write offset xs]
  exact .many hne hitem

/-- At the end of the surrounding element there are no items. -/
theorem many_nil (item : Reader γ) : Reads (many item) offset [] [] [] := by
  intro beyond _
  show atMost item (offset + 0 - offset) _ _ = _
  rw [Nat.add_sub_cancel_left]
  rfl

/-- Nothing is left to be skipped. -/
protected theorem tail : Reads tail offset [] [] () :=
  .bind_left (.many_nil skipUnknown) (.pure ())

/-- An element whose value is made of elements. The reader of the value takes all of it, so that no
tail is left. -/
protected theorem nested {body : Reader α} (h : HeaderForm type value.length head)
    (hbody : Reads body (offset + head.length) value [] a) :
    Reads (nested type body) offset (head ++ value) after a := by
  have hinside : Reads (body >>= fun a => tail >>= fun _ => pure a) (offset + head.length) value []
      a := .bind_right hbody (.bind_left .tail (.pure a))
  exact .bind (.enter h) (.within hinside)

/-! ## Elements that may be missing -/

/-- The next element is told by its type. -/
private theorem peek_form {form rest : Bytes} (h : NumberForm type form) :
    Reads peek offset [] (form ++ rest) (some type) := by
  intro beyond _
  have hpos := h.length_pos
  have hstop : ¬ offset + (form ++ rest).length ≤ offset := by
    rw [List.length_append]
    omega
  simp only [peek, List.nil_append, List.append_assoc, number_form h, List.length_nil,
    Nat.add_zero]
  rw [if_neg hstop]

/-- An element of the type is next. -/
theorem optional_some {r : Reader α} (h : Reads r offset written after a)
    (hstart : StartsWith type written) :
    Reads (optional type r) offset written after (some a) := by
  obtain ⟨form, rest, hform, rfl⟩ := hstart
  have hpeek : Reads peek offset [] (form ++ rest ++ after) (some type) := by
    rw [List.append_assoc]
    exact peek_form hform
  refine .bind_left hpeek ?_
  rw [if_pos rfl]
  exact .map some h

/-- Nothing is next, or an element of another type. -/
theorem optional_none {r : Reader α} {types : List UInt64} (h : StartsIn types after)
    (hnot : type ∉ types) : Reads (optional type r) offset [] after none := by
  rcases h with rfl | ⟨next, hmem, form, rest, hform, rfl⟩
  · have hpeek : Reads peek offset [] [] none := by
      intro beyond _
      exact if_pos (Nat.le_refl offset)
    exact .bind_left hpeek (.pure none)
  · have hpeek : Reads peek offset [] (form ++ rest) (some next) := peek_form hform
    refine .bind_left hpeek ?_
    rw [if_neg]
    · exact .pure none
    · rintro ⟨⟩
      exact hnot hmem

/-- A number that may be missing. -/
theorem optional_integer (n : Option UInt64) {types : List UInt64} (h : StartsIn types after)
    (hnot : type ∉ types) :
    Reads (optional type (integer type)) offset (integerElement? type n) after n := by
  cases n with
  | none => exact optional_none h hnot
  | some n => exact optional_some (.integer n) (startsWith_element type _)

/-! ## Reading an input -/

/-- What reads an input from its start gives its value and stops where it has read to. -/
theorem run_eq {r : Reader α} (h : Reads r 0 written after a)
    (hsize : (written ++ after).length < UInt64.size) :
    r.run (written ++ after) = .ok (a, ⟨written.length, after⟩) := by
  have hread := h [] (by rw [Nat.zero_add]; exact hsize)
  simp only [List.append_nil, Nat.zero_add] at hread
  exact hread

theorem value_eq {r : Reader α} (h : Reads r 0 written after a)
    (hsize : (written ++ after).length < UInt64.size) : r.value (written ++ after) = .ok a := by
  rw [value, h.run_eq hsize]
  rfl

/-- The whole of an input is read. -/
theorem run_whole {r : Reader α} (h : Reads r 0 written [] a) (hsize : written.length < UInt64.size) :
    r.run written = .ok (a, ⟨written.length, []⟩) := by
  have hrun := h.run_eq (by rw [List.append_nil]; exact hsize)
  rw [List.append_nil] at hrun
  exact hrun

theorem value_whole {r : Reader α} (h : Reads r 0 written [] a) (hsize : written.length < UInt64.size) :
    r.value written = .ok a := by
  rw [value, h.run_whole hsize]
  rfl

/-- Where what a reader takes comes next, what goes on after it goes on behind that, with its value. -/
theorem next_eq_ok {r : Reader α} {next : α → Reader β} {stop : Nat} {c : Cursor}
    (h : Reads r offset written after a) (hstop : stop = offset + (written ++ after).length)
    (hsize : stop < UInt64.size) (hread : (r >>= next) stop ⟨offset, written ++ after⟩ = .ok (b, c)) :
    next a stop ⟨offset + written.length, after⟩ = .ok (b, c) := by
  subst hstop
  have hfirst := h [] hsize
  rw [List.append_nil] at hfirst
  obtain ⟨a', c', hfirst', hnext⟩ := bind_eq_ok_iff.1 hread
  cases hfirst.symm.trans hfirst'
  exact hnext

/-- What is read of an element was read from its value. -/
theorem nested_eq_ok {body : Reader α} {c : Cursor} (h : HeaderForm type value.length head)
    (hsize : (head ++ value).length < UInt64.size)
    (hread : (Reader.nested type body).run (head ++ value) = .ok (a, c)) :
    ∃ c', body (head ++ value).length ⟨head.length, value⟩ = .ok (a, c') := by
  have henter : Reads (Reader.enter type) 0 head (value ++ []) _ := .enter h
  rw [List.append_nil] at henter
  have hwithin := henter.next_eq_ok (Nat.zero_add _).symm hsize hread
  rw [Nat.zero_add, ← List.length_append] at hwithin
  obtain ⟨a', c', hbody, hrest⟩ := bind_eq_ok_iff.1 hwithin
  obtain ⟨_, c'', -, hpure⟩ := bind_eq_ok_iff.1 hrest
  cases hpure
  exact ⟨c', hbody⟩

end Reads

end Reader

end Wire

end NamedData
