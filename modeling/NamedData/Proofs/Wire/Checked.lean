import NamedData.Wire.Format

/-!
# Readers that check themselves

A `Checked` reader holds the whole input and an offset into it. It stops on a `Fault` where a program
would: at a sum that takes more than 64 bits, at a range that does not lie in the input, at a signed
range that does not lie in its bytes. It also stops where a reader breaks the contract that others
rely on: the surrounding element must end in the input, an element that has been read must have
taken bytes up to the end of the surrounding element at most, and a sequence must come to its end
within as many rounds as there are bytes.

`Checked.Follows` says that a checked reader meets no fault and reads what a reader on a cursor reads.
Readers in sequence follow readers in sequence (`Follows.bind`), so that a checked reader is compared
with its reader part by part.
-/

namespace NamedData.Wire

/-! ## Faults -/

/-- What is wrong with a reader, rather than with its input. -/
inductive Fault where
  /-- The sum of two offsets takes more than 64 bits. -/
  | sum (a b : Nat)
  /-- A range ends before it begins, or after the input. -/
  | range (first last : Nat)
  /-- The surrounding element ends after the input. -/
  | surrounding (stop : Nat)
  /-- What has been read took no bytes, or some beyond the surrounding element. -/
  | progress (first last : Nat)
  /-- A sequence has had a round for each of its bytes, and there is more of it. -/
  | rounds
  | signedRange (fault : SignedBlob.OutOfBounds)
  deriving DecidableEq, Repr

/-- What comes of reading: a fault, an error of the input, or a value. -/
abbrev Outcome (α : Type) : Type :=
  Except Fault (Except DecodingError α)

/-- The sum of two offsets. -/
def sum (a b : Nat) : Except Fault Nat :=
  if a + b < UInt64.size then .ok (a + b) else .error (.sum a b)

/-- The bytes of a range of the input, if it is one. -/
def slice? (input : Bytes) (first last : Nat) : Option Bytes :=
  if first ≤ last ∧ last ≤ input.length then some (input.extract first last) else none

/-- The bytes of a range of the input, which must be one. -/
def slice (input : Bytes) (first last : Nat) : Except Fault Bytes :=
  match slice? input first last with
  | some bytes => .ok bytes
  | none => .error (.range first last)

/-! ## Checked readers -/

/-- Reads a value at an offset of the input, inside an element that ends at another. -/
def Checked (α : Type) : Type :=
  (input : Bytes) → (stop offset : Nat) → Except Fault (Except DecodingError (α × Nat))

namespace Checked

variable {α β : Type}

/-- Reads nothing. -/
protected def pure (a : α) : Checked α :=
  fun _ _ offset => .ok (.ok (a, offset))

/-- Reads on after a first value, by what that value was. -/
protected def bind (g : Checked α) (next : α → Checked β) : Checked β :=
  fun input stop offset =>
    match g input stop offset with
    | .ok (.ok (a, after)) => next a input stop after
    | .ok (.error e) => .ok (.error e)
    | .error fault => .error fault

instance : Monad Checked where
  pure := Checked.pure
  bind := Checked.bind

/-- Gives up. -/
def fail (e : DecodingError) : Checked α :=
  fun _ _ _ => .ok (.error e)

/-- Takes an outcome that is there already. -/
def lift (outcome : Outcome α) : Checked α :=
  fun _ _ offset => outcome.map (·.map (·, offset))

/-- Reads inside an element that ends at another offset. -/
def within (stop : Nat) (g : Checked α) : Checked α :=
  fun input _ offset => g input stop offset

def offset : Checked Nat :=
  fun _ _ offset => .ok (.ok (offset, offset))

/-- The bytes of the input from an offset to where the reader is. -/
def sliceFrom (first : Nat) : Checked Bytes :=
  fun input _ offset => (slice input first offset).map fun bytes => .ok (bytes, offset)

/-- Reads a value and the bytes it was read from. -/
def withBytes (g : Checked α) : Checked (α × Bytes) := do
  let first ← offset
  let a ← g
  return (a, ← sliceFrom first)

/-- Reads what must take bytes, up to the end of the surrounding element at most. -/
def forward (g : Checked α) : Checked α :=
  fun input stop offset =>
    if input.length < stop then .error (.surrounding stop)
    else
      match g input stop offset with
      | .ok (.ok (a, after)) =>
        if offset < after ∧ after ≤ stop then .ok (.ok (a, after))
        else .error (.progress offset after)
      | .ok (.error e) => .ok (.error e)
      | .error fault => .error fault

/-! ## Headers and values -/

/-- Reads a type or length number in any of its four forms. -/
def number : Checked UInt64 :=
  fun input _ offset =>
    match input[offset]? with
    | none => .ok (.error (.truncated offset))
    | some first => do
      let start ← sum offset 1
      match Reader.wideWidth? first with
      | none => return .ok (first.toUInt64, start)
      | some width =>
        let last ← sum start width
        match slice? input start last with
        | none => return .error (.truncated start)
        | some bytes => return (Integer.decode bytes).map (·, last)

/-- The offset at which a value of the given length ends, in an element that starts at another. A
length that does not fit is an error of the input. -/
def valueEnd (start : Nat) (length : UInt64) : Checked Nat :=
  fun input stop offset =>
    let last := offset + length.toNat
    if UInt64.size ≤ last then .ok (.error (.truncated offset))
    else if input.length < last then .ok (.error (.truncated input.length))
    else if stop < last then .ok (.error (.overrun start stop))
    else .ok (.ok (last, offset))

/-- Reads a header: the type and the offset at which the value ends. -/
def header : Checked (UInt64 × Nat) :=
  forward do
    let start ← offset
    let type ← number
    let length ← number
    return (type, ← valueEnd start length)

/-- Reads the bytes up to an offset. -/
def upTo (last : Nat) : Checked Bytes :=
  fun input _ offset => (slice input offset last).map fun bytes => .ok (bytes, last)

/-- The type of the next element, none at the end of the surrounding element or if there is no
number. -/
def peek : Checked (Option UInt64) :=
  fun input stop offset =>
    if stop ≤ offset then .ok (.ok (none, offset))
    else (number input stop offset).map fun
      | .ok (type, _) => .ok (some type, offset)
      | .error _ => .ok (none, offset)

/-- Reads an element of any type. -/
def any : Checked (UInt64 × Bytes) :=
  forward do
    let (type, last) ← header
    let value ← upTo last
    return (type, value)

/-- Reads the header of an element that must have the given type. -/
def enter (expected : UInt64) : Checked Nat := do
  let start ← offset
  let (type, last) ← header
  if type = expected then return last
  else fail (.unexpectedType expected type start)

/-- Reads an element of the given type. -/
def blob (expected : UInt64) : Checked Bytes :=
  forward do
    let last ← enter expected
    upTo last

/-- Reads an element of the given type whose value is a number. -/
def integer (expected : UInt64) : Checked UInt64 := do
  let value ← blob expected
  lift (.ok (Integer.decode value))

/-- Reads something if the next element has the given type. -/
def optional (type : UInt64) (g : Checked α) : Checked (Option α) := do
  if (← peek) = some type then some <$> g else return none

/-! ## Sequences -/

/-- Reads items before the end of the surrounding element, which must come within `count` rounds. -/
def rounds (item : Checked α) : (count : Nat) → Checked (List α)
  | 0 => fun _ stop offset => if stop ≤ offset then .ok (.ok ([], offset)) else .error .rounds
  | count + 1 => fun input stop offset =>
    if stop ≤ offset then .ok (.ok ([], offset))
    else (do
      let a ← item
      let items ← rounds item count
      return a :: items) input stop offset

/-- Reads items up to the end of the surrounding element. -/
def many (item : Checked α) : Checked (List α) :=
  fun input stop offset => rounds item (stop - offset) input stop offset

/-- Skips an unknown element, unless it is critical. -/
def skipUnknown : Checked Unit :=
  forward do
    let (type, last) ← header
    if ElementType.isCritical type then fail (.unrecognizedCriticalType type)
    let _ ← upTo last

/-- Skips unknown elements up to the end of the surrounding element. -/
def tail : Checked Unit := do
  let _ ← many skipUnknown

/-- Reads an element of the given type whose value is read by `body` up to a tail. -/
def nested (type : UInt64) (body : Checked α) : Checked α :=
  forward do
    let last ← enter type
    within last do
      let a ← body
      tail
      return a

/-- Reads an element of the given type if it is next, as `nested` does. -/
def optionalNested (type : UInt64) (body : Checked α) : Checked (Option α) :=
  optional type (nested type body)

/-- Reads from the start of an input. -/
def run (g : Checked α) (input : Bytes) : Outcome (α × Nat) :=
  g input input.length 0

/-- What is read from the start of an input. -/
def value (g : Checked α) (input : Bytes) : Outcome α :=
  (g.run input).map (·.map Prod.fst)

end Checked

/-! ## Headers of readers on cursors -/

/-- The offset at which a value of the given length ends, in an element that starts at another. -/
def Reader.valueEnd (start : Nat) (length : UInt64) : Reader Nat :=
  fun stop c =>
    let last := c.offset + length.toNat
    if UInt64.size ≤ last then .error (.truncated c.offset)
    else if c.inputEnd < last then .error (.truncated c.inputEnd)
    else if stop < last then .error (.overrun start stop)
    else .ok (last, c)

/-- A header is two numbers, the second of which is looked at. -/
theorem Reader.header_eq :
    header = do
      let start ← offset
      let type ← number
      let length ← number
      return (type, ← valueEnd start length) := by
  funext stop c
  simp only [header, offset, bind, Reader.bind, Except.bind, valueEnd]
  cases number stop c with
  | error e => rfl
  | ok first =>
    simp only
    cases number stop first.2 with
    | error e => rfl
    | ok second =>
      simp only
      split
      · rfl
      split
      · rfl
      split <;> rfl

/-! ## Agreement with readers on cursors -/

/-- An input that fits into memory, where no object takes more than half of the addresses. -/
def Addressable (input : Bytes) : Prop :=
  input.length < Nat.pow 2 63

/-- The cursor at an offset of an input. -/
def Cursor.ofOffset (input : Bytes) (offset : Nat) : Cursor :=
  ⟨offset, input.drop offset⟩

/-- An offset inside an element that ends in an addressable input. -/
structure Inside (input : Bytes) (stop offset : Nat) : Prop where
  addressable : Addressable input
  le_stop : offset ≤ stop
  stop_le : stop ≤ input.length

theorem Cursor.inputEnd_ofOffset {input : Bytes} {offset : Nat} (h : offset ≤ input.length) :
    (Cursor.ofOffset input offset).inputEnd = input.length := by
  show offset + (input.drop offset).length = input.length
  rw [List.length_drop]
  omega

theorem Inside.move {input : Bytes} {stop offset after : Nat} (h : Inside input stop offset)
    (hle : after ≤ stop) : Inside input stop after :=
  ⟨h.addressable, hle, h.stop_le⟩

/-- A checked reader has met no fault: it has found the error that the reader on a cursor has found,
or it has read the same value, and both are at the same offset. -/
inductive Tallies {α : Type} (input : Bytes) (post : α → Nat → Prop) (x : Outcome (α × Nat))
    (y : Except DecodingError (α × Cursor)) : Prop where
  | error (e : DecodingError) (hx : x = .ok (.error e)) (hy : y = .error e)
  | ok (a : α) (after : Nat) (hx : x = .ok (.ok (a, after)))
      (hy : y = .ok (a, .ofOffset input after)) (hpost : post a after)

namespace Tallies

variable {α β : Type} {input : Bytes} {stop offset : Nat} {post post' : α → Nat → Prop}
  {x : Outcome (α × Nat)} {y : Except DecodingError (α × Cursor)}

theorem weaken (h : Tallies input post x y) (himp : ∀ a after, post a after → post' a after) :
    Tallies input post' x y := by
  cases h with
  | error e hx hy => exact .error e hx hy
  | ok a after hx hy hpost => exact .ok a after hx hy (himp a after hpost)

protected theorem bind {g : Checked α} {r : Reader α} {next : α → Checked β} {next' : α → Reader β}
    {stop : Nat} {post' : β → Nat → Prop}
    (h : Tallies input post (g input stop offset) (r stop (.ofOffset input offset)))
    (hnext : ∀ a after, post a after →
      Tallies input post' (next a input stop after) (next' a stop (.ofOffset input after))) :
    Tallies input post' ((g >>= next) input stop offset)
      ((r >>= next') stop (.ofOffset input offset)) := by
  cases h with
  | error e hx hy =>
    refine .error e ?_ ?_
    · simp only [bind, Checked.bind, hx]
    · simp only [bind, Reader.bind, hy]
  | ok a after hx hy hpost =>
    have hrest := hnext a after hpost
    simp only [bind, Checked.bind, hx, Reader.bind, hy]
    exact hrest

protected theorem pure {a : α} (h : post a offset) :
    Tallies input post ((pure a : Checked α) input stop offset)
      ((pure a : Reader α) stop (.ofOffset input offset)) :=
  .ok a offset rfl rfl h

protected theorem ite {c : Prop} [Decidable c] {x' : Except Fault (Except DecodingError (α × Nat))}
    {y' : Except DecodingError (α × Cursor)} (hpos : c → Tallies input post x y)
    (hneg : ¬ c → Tallies input post x' y') :
    Tallies input post (if c then x else x') (if c then y else y') := by
  by_cases hc : c
  · rw [if_pos hc, if_pos hc]
    exact hpos hc
  · rw [if_neg hc, if_neg hc]
    exact hneg hc

protected theorem offset :
    Tallies input (fun a after => a = offset ∧ after = offset) (Checked.offset input stop offset)
      (Reader.offset stop (.ofOffset input offset)) :=
  .ok offset offset rfl rfl ⟨rfl, rfl⟩

protected theorem fail (e : DecodingError) :
    Tallies input post (Checked.fail e input stop offset)
      (Reader.fail e stop (.ofOffset input offset)) :=
  .error e rfl rfl

protected theorem lift {outcome : Outcome α} {result : Except DecodingError α}
    (h : outcome = .ok result) :
    Tallies input (fun _ after => after = offset) (Checked.lift outcome input stop offset)
      (Reader.lift result stop (.ofOffset input offset)) := by
  subst h
  cases result with
  | error e => exact .error e rfl rfl
  | ok a => exact .ok a offset rfl rfl rfl

/-- What has taken bytes up to the end of the surrounding element passes the check. -/
protected theorem forward {g : Checked α} (hinside : Inside input stop offset)
    (h : Tallies input post (g input stop offset) y)
    (hpost : ∀ a after, post a after → offset < after ∧ after ≤ stop) :
    Tallies input post (Checked.forward g input stop offset) y := by
  have hstop := Nat.not_lt.2 hinside.stop_le
  cases h with
  | error e hx hy =>
    refine .error e ?_ hy
    simp only [Checked.forward, if_neg hstop, hx]
  | ok a after hx hy ha =>
    refine .ok a after ?_ hy ha
    simp only [Checked.forward, if_neg hstop, hx, if_pos (hpost a after ha)]

/-! ### Headers and values -/

theorem slice?_eq {first last : Nat} (hle : first ≤ last) (hlast : last ≤ input.length) :
    slice? input first last = some (input.extract first last) :=
  if_pos ⟨hle, hlast⟩

theorem slice_eq {first last : Nat} (hle : first ≤ last) (hlast : last ≤ input.length) :
    slice input first last = .ok (input.extract first last) := by
  rw [slice, slice?_eq hle hlast]

/-- Offsets of an addressable input are far from the largest number. -/
theorem sum_eq {a b : Nat} (haddr : Addressable input) (ha : a ≤ input.length) (hb : b ≤ 8) :
    sum a b = .ok (a + b) := by
  have hlength : input.length < Nat.pow 2 63 := haddr
  have hroom : Nat.pow 2 63 + 8 < UInt64.size := by decide
  exact if_pos (by omega)

/-- The widths of wide numbers are lengths that whole numbers have as values. -/
theorem decode_of_wideWidth? {first : UInt8} {bytes : Bytes}
    (h : Reader.wideWidth? first = some bytes.length) :
    Integer.decode bytes = .ok (UInt64.ofNat (Bytes.ofBigEndian bytes)) := by
  have hlength : [1, 2, 4, 8].contains bytes.length = true := by
    rcases Reader.wideWidth?_eq_some h with h | h | h <;> rw [h] <;> rfl
  rw [Integer.decode, Integer.decode?, if_pos hlength]

/-- A number may lie beyond the end of the surrounding element, but not beyond the input. -/
protected theorem number (stop : Nat) (haddr : Addressable input) (hle : offset ≤ input.length) :
    Tallies input (fun _ after => offset < after ∧ after ≤ input.length)
      (Checked.number input stop offset) (Reader.number stop (.ofOffset input offset)) := by
  unfold Checked.number Reader.number Cursor.ofOffset
  rcases Nat.lt_or_ge offset input.length with hlt | hge
  · rw [List.getElem?_eq_getElem hlt, List.drop_eq_getElem_cons hlt]
    simp only [sum_eq haddr hle (by decide : 1 ≤ 8), bind, Except.bind]
    cases hwidth : Reader.wideWidth? input[offset] with
    | none => exact .ok _ (offset + 1) rfl rfl ⟨Nat.lt_succ_self _, hlt⟩
    | some width =>
      have hsmall := Reader.wideWidth?_eq_some hwidth
      have hwide : width ≤ 8 := by omega
      simp only [sum_eq haddr (Nat.succ_le_of_lt hlt) hwide, List.length_drop]
      by_cases hlast : offset + 1 + width ≤ input.length
      · rw [if_neg (by omega), slice?_eq (Nat.le_add_right _ _) hlast]
        have hextract : input.extract (offset + 1) (offset + 1 + width)
            = (input.drop (offset + 1)).take width := by
          rw [List.extract, Nat.add_sub_cancel_left]
        have hlength : ((input.drop (offset + 1)).take width).length = width := by
          rw [List.length_take, List.length_drop]
          omega
        have hdecode := decode_of_wideWidth? (hlength.symm ▸ hwidth)
        refine .ok _ (offset + 1 + width) ?_ (by rw [List.drop_drop]; rfl) ⟨by omega, hlast⟩
        simp only [hextract, hdecode]
        rfl
      · rw [if_pos (by omega), slice?, if_neg (fun h => hlast h.2)]
        exact .error _ rfl rfl
  · rw [List.getElem?_eq_none hge, List.drop_eq_nil_of_le hge]
    exact .error _ rfl rfl

/-- The end of a value lies inside the surrounding element. -/
protected theorem valueEnd (start : Nat) (length : UInt64) (hle : offset ≤ input.length) :
    Tallies input (fun last after => after = offset ∧ offset ≤ last ∧ last ≤ stop)
      (Checked.valueEnd start length input stop offset)
      (Reader.valueEnd start length stop (.ofOffset input offset)) := by
  unfold Checked.valueEnd Reader.valueEnd
  rw [Cursor.inputEnd_ofOffset hle]
  refine .ite (fun _ => .error _ rfl rfl) fun _ => ?_
  refine .ite (fun _ => .error _ rfl rfl) fun _ => ?_
  refine .ite (fun _ => .error _ rfl rfl) fun hstop => ?_
  exact .ok _ offset rfl rfl ⟨rfl, Nat.le_add_right _ _, Nat.not_lt.1 hstop⟩

/-- A header takes two bytes at least, and announces a value inside the surrounding element. -/
protected theorem header (h : Inside input stop offset) :
    Tallies input (fun p after => offset + 2 ≤ after ∧ after ≤ p.2 ∧ p.2 ≤ stop)
      (Checked.header input stop offset) (Reader.header stop (.ofOffset input offset)) := by
  rw [Reader.header_eq]
  refine .forward h ?_ (fun p after hp => by omega)
  have hle := Nat.le_trans h.le_stop h.stop_le
  refine .bind .offset ?_
  rintro _ _ ⟨rfl, rfl⟩
  refine .bind (.number stop h.addressable hle) fun type middle htype => ?_
  refine .bind (.number stop h.addressable htype.2) fun length after hlength => ?_
  refine .bind (.valueEnd _ length hlength.2) ?_
  rintro last _ ⟨rfl, hlast⟩
  exact .pure (by omega)

protected theorem upTo {last : Nat} (hle : offset ≤ last) (hlast : last ≤ input.length) :
    Tallies input (fun _ after => after = last) (Checked.upTo last input stop offset)
      (Reader.upTo last stop (.ofOffset input offset)) := by
  refine .ok (input.extract offset last) last ?_ ?_ rfl
  · rw [Checked.upTo, slice_eq hle hlast]
    rfl
  · simp only [Reader.upTo, Cursor.ofOffset, List.drop_drop, Nat.add_sub_cancel' hle]

/-- The header of an element of the type that is asked for. -/
protected theorem enter (h : Inside input stop offset) (type : UInt64) :
    Tallies input (fun last after => offset + 2 ≤ after ∧ after ≤ last ∧ last ≤ stop)
      (Checked.enter type input stop offset) (Reader.enter type stop (.ofOffset input offset)) := by
  refine .bind .offset ?_
  rintro _ _ ⟨rfl, rfl⟩
  refine .bind (.header h) fun p after hp => ?_
  obtain ⟨actual, last⟩ := p
  dsimp only
  split
  · exact .pure hp
  · exact .fail _

/-- The bytes that were read are a part of the input. -/
protected theorem withBytes {g : Checked α} {r : Reader α}
    (h : Tallies input post (g input stop offset) (r stop (.ofOffset input offset)))
    (hpost : ∀ a after, post a after → offset ≤ after ∧ after ≤ input.length) :
    Tallies input (fun p after => post p.1 after ∧ p.2.length ≤ input.length)
      (Checked.withBytes g input stop offset)
      (Reader.withBytes r stop (.ofOffset input offset)) := by
  cases h with
  | error e hx hy =>
    refine .error e ?_ ?_
    · simp only [Checked.withBytes, bind, Checked.bind, Checked.offset, hx]
    · simp only [Reader.withBytes, hy, Except.map]
  | ok a after hx hy ha =>
    obtain ⟨hle, hlast⟩ := hpost a after ha
    refine .ok (a, input.extract offset after) after ?_ ?_ ⟨ha, ?_⟩
    · simp only [Checked.withBytes, bind, Checked.bind, Checked.offset, hx, Checked.sliceFrom,
        slice_eq hle hlast]
      rfl
    · simp only [Reader.withBytes, hy, Except.map]
      rfl
    · simp only [List.extract, List.length_take, List.length_drop]
      omega

/-! ### Sequences -/

/-- Reading an item and then more of them is what a round does. -/
theorem atMost_succ (item : Reader α) (count stop : Nat) (c : Cursor) (hlt : ¬ stop ≤ c.offset) :
    Reader.atMost item (count + 1) stop c = (do
      let a ← item
      let items ← Reader.atMost item count
      return a :: items : Reader (List α)) stop c := by
  simp only [Reader.atMost, if_neg hlt, bind, Reader.bind]
  cases item stop c with
  | error e => rfl
  | ok first =>
    simp only
    cases Reader.atMost item count stop first.2 <;> rfl

section

variable {g : Checked α} {r : Reader α} {P : α → Nat → Nat → Prop}

/-- A sequence comes to its end in time if its items take bytes. What is known of an item and the
offsets that it lies between is known of all of them. -/
private theorem rounds
    (hmono : ∀ ⦃a first first' last last'⦄, first' ≤ first → last ≤ last' → P a first last →
      P a first' last')
    (hitem : ∀ ⦃offset⦄, Inside input stop offset →
      Tallies input (fun a after => offset < after ∧ after ≤ stop ∧ P a offset after)
        (g input stop offset) (r stop (.ofOffset input offset)))
    (count : Nat) {offset : Nat} (h : Inside input stop offset) (hcount : stop ≤ offset + count) :
    Tallies input (fun items after => offset ≤ after ∧ after ≤ stop ∧ ∀ a ∈ items, P a offset after)
      (Checked.rounds g count input stop offset)
      (Reader.atMost r count stop (.ofOffset input offset)) := by
  have hnil : offset ≤ offset ∧ offset ≤ stop ∧ ∀ a ∈ ([] : List α), P a offset offset :=
    ⟨Nat.le_refl _, h.le_stop, fun _ hmem => nomatch hmem⟩
  induction count generalizing offset with
  | zero => exact .ok [] offset (if_pos hcount) rfl hnil
  | succ count ih =>
    by_cases hend : stop ≤ offset
    · exact .ok [] offset (if_pos hend) (if_pos hend) hnil
    rw [atMost_succ r count stop _ hend]
    simp only [Checked.rounds, if_neg hend]
    refine .bind (hitem h) fun a after ha => ?_
    have hmove := h.move ha.2.1
    -- the item took a byte, so that a round is left for each of the others
    refine .bind (ih hmove (by omega) ⟨Nat.le_refl _, hmove.le_stop, fun _ hmem => nomatch hmem⟩)
      fun items last hitems => ?_
    refine .pure ⟨by omega, hitems.2.1, fun b hmem => ?_⟩
    rcases List.mem_cons.1 hmem with rfl | hmem
    · exact hmono (Nat.le_refl _) hitems.1 ha.2.2
    · exact hmono (Nat.le_of_lt ha.1) (Nat.le_refl _) (hitems.2.2 b hmem)

protected theorem many
    (hmono : ∀ ⦃a first first' last last'⦄, first' ≤ first → last ≤ last' → P a first last →
      P a first' last')
    (hitem : ∀ ⦃offset⦄, Inside input stop offset →
      Tallies input (fun a after => offset < after ∧ after ≤ stop ∧ P a offset after)
        (g input stop offset) (r stop (.ofOffset input offset)))
    (h : Inside input stop offset) :
    Tallies input (fun items after => offset ≤ after ∧ after ≤ stop ∧ ∀ a ∈ items, P a offset after)
      (Checked.many g input stop offset) (Reader.many r stop (.ofOffset input offset)) :=
  rounds hmono hitem (stop - offset) h (by omega)

end

protected theorem skipUnknown (h : Inside input stop offset) :
    Tallies input (fun _ after => offset + 2 ≤ after ∧ after ≤ stop)
      (Checked.skipUnknown input stop offset)
      (Reader.skipUnknown stop (.ofOffset input offset)) := by
  refine .forward h ?_ fun _ after hafter => by omega
  refine .bind (.header h) fun p after hp => ?_
  obtain ⟨type, last⟩ := p
  dsimp only
  split
  · exact .error _ rfl rfl
  · refine .bind (.upTo hp.2.1 (Nat.le_trans hp.2.2 h.stop_le)) ?_
    rintro value _ rfl
    exact .pure (by omega)

protected theorem tail (h : Inside input stop offset) :
    Tallies input (fun _ after => offset ≤ after ∧ after ≤ stop) (Checked.tail input stop offset)
      (Reader.tail stop (.ofOffset input offset)) := by
  have hskips := Tallies.many (P := fun _ _ _ => True) (fun _ _ _ _ _ _ _ _ => trivial)
    (fun _ h' => (Tallies.skipUnknown h').weaken fun _ after hafter => ⟨by omega, hafter.2, trivial⟩) h
  exact .bind hskips fun _ after hafter => .pure ⟨hafter.1, hafter.2.1⟩

/-- What is read inside an element that must have the given type. -/
protected theorem inside {g : Checked α} {r : Reader α} (type : UInt64)
    (h : Inside input stop offset)
    (hbody : ∀ ⦃last after⦄, offset + 2 ≤ after → last ≤ stop → Inside input last after →
      Tallies input post (g input last after) (r last (.ofOffset input after))) :
    Tallies input post ((Checked.enter type >>= fun last => Checked.within last g) input stop offset)
      ((Reader.enter type >>= fun last => Reader.within last r) stop (.ofOffset input offset)) := by
  refine .bind (.enter h type) fun last after hlast => ?_
  exact hbody hlast.1 hlast.2.2
    ⟨h.addressable, hlast.2.1, Nat.le_trans hlast.2.2 h.stop_le⟩

/-- An element whose value is made of elements. What is known of the value and the offset after it
stays known after the tail. -/
protected theorem nested {g : Checked α} {r : Reader α} {P : α → Nat → Prop} (type : UInt64)
    (h : Inside input stop offset)
    (hmono : ∀ ⦃a after after'⦄, after ≤ after' → P a after → P a after')
    (hbody : ∀ ⦃last after⦄, Inside input last after →
      Tallies input (fun a after' => after ≤ after' ∧ after' ≤ last ∧ P a after')
        (g input last after) (r last (.ofOffset input after))) :
    Tallies input (fun a after => offset + 2 ≤ after ∧ after ≤ stop ∧ P a after)
      (Checked.nested type g input stop offset)
      (Reader.nested type r stop (.ofOffset input offset)) := by
  refine .forward h ?_ fun _ after hafter => by omega
  refine .inside type h fun last after hle hstop hinside => ?_
  refine .bind (hbody hinside) fun a middle ha => ?_
  refine .bind (.tail (hinside.move ha.2.1)) fun _ after' hafter' => ?_
  exact .pure ⟨by omega, by omega, hmono hafter'.1 ha.2.2⟩

end Tallies

/-! ## Agreement of readers -/

namespace Checked

variable {α β : Type} {g : Checked α} {r : Reader α} {next : α → Checked β} {next' : α → Reader β}
  {least : Nat}

/-- Inside an element of an addressable input the checked reader meets no fault, and reads what the
reader on a cursor reads: `least` bytes at least, and none beyond the element. -/
structure Follows (g : Checked α) (least : Nat) (r : Reader α) : Prop where
  tallies {input : Bytes} {stop offset : Nat} : Inside input stop offset →
    Tallies input (fun _ after => offset + least ≤ after ∧ after ≤ stop) (g input stop offset)
      (r stop (.ofOffset input offset))

namespace Follows

theorem zero (h : Follows g least r) : Follows g 0 r where
  tallies hinside := (h.tallies hinside).weaken fun _ after hafter => by omega

protected theorem pure (a : α) : Follows (pure a) 0 (pure a) where
  tallies hinside := .pure ⟨Nat.le_refl _, hinside.le_stop⟩

protected theorem fail (e : DecodingError) :
    Follows (fail e : Checked α) least (Reader.fail e) where
  tallies _ := .fail e

protected theorem lift (result : Except DecodingError α) :
    Follows (lift (.ok result)) 0 (Reader.lift result) where
  tallies hinside := by
    refine (Tallies.lift rfl).weaken ?_
    rintro a _ rfl
    exact ⟨Nat.le_refl _, hinside.le_stop⟩

/-- What is known after a first reader is known of whatever it has read, from there on. -/
theorem tallies_bind {input : Bytes} {stop offset : Nat} {post : β → Nat → Prop}
    (h : Follows g least r) (hinside : Inside input stop offset)
    (hnext : ∀ a after, offset ≤ after → Inside input stop after →
      Tallies input post (next a input stop after) (next' a stop (.ofOffset input after))) :
    Tallies input post ((g >>= next) input stop offset)
      ((r >>= next') stop (.ofOffset input offset)) :=
  .bind (h.tallies hinside) fun a after hafter =>
    hnext a after (by omega) (hinside.move hafter.2)

/-- A sequence of readers takes what the first of them takes. -/
theorem bind_left (h : Follows g least r) (hnext : ∀ a, Follows (next a) 0 (next' a)) :
    Follows (g >>= next) least (r >>= next') where
  tallies hinside := by
    refine .bind (h.tallies hinside) fun a after hafter => ?_
    exact ((hnext a).tallies (hinside.move hafter.2)).weaken fun b last hlast => by omega

/-- Readers in sequence follow readers in sequence. -/
protected theorem bind (h : Follows g least r) (hnext : ∀ a, Follows (next a) 0 (next' a)) :
    Follows (g >>= next) 0 (r >>= next') :=
  .zero (.bind_left h hnext)

protected theorem map (f : α → β) (h : Follows g least r) : Follows (f <$> g) 0 (f <$> r) :=
  .bind h fun a => .pure (f a)

protected theorem ite {c : Prop} [Decidable c] {g' : Checked α} {r' : Reader α}
    (hpos : Follows g least r) (hneg : Follows g' least r') :
    Follows (if c then g else g') least (if c then r else r') := by
  split
  · exact hpos
  · exact hneg

/-- What takes a byte passes the check. -/
protected theorem forward (h : Follows g least r) (hleast : 0 < least) :
    Follows (forward g) least r where
  tallies hinside := .forward hinside (h.tallies hinside) fun _ _ hafter => by omega

/-! ### Elements -/

protected theorem any : Follows any 2 Reader.any := by
  refine .forward ⟨fun {input stop offset} hinside => ?_⟩ (by decide)
  refine .bind (.header hinside) fun p after hp => ?_
  obtain ⟨type, last⟩ := p
  refine .bind (.upTo hp.2.1 (Nat.le_trans hp.2.2 hinside.stop_le)) ?_
  rintro value _ rfl
  exact .pure (by omega)

protected theorem blob (type : UInt64) : Follows (blob type) 2 (Reader.blob type) := by
  refine .forward ⟨fun {input stop offset} hinside => ?_⟩ (by decide)
  refine .bind (.enter hinside type) fun last after hlast => ?_
  refine (Tallies.upTo hlast.2.1 (Nat.le_trans hlast.2.2 hinside.stop_le)).weaken ?_
  rintro value _ rfl
  omega

protected theorem integer (type : UInt64) : Follows (integer type) 0 (Reader.integer type) :=
  .bind (.blob type) fun _ => .lift _

protected theorem peek : Follows peek 0 Reader.peek where
  tallies {input stop offset} hinside := by
    have hnumber := Tallies.number stop hinside.addressable
      (Nat.le_trans hinside.le_stop hinside.stop_le)
    refine .ite (fun _ => .ok none offset rfl rfl ⟨Nat.le_refl _, hinside.le_stop⟩) fun _ => ?_
    cases hnumber with
    | error e hx hy =>
      rw [hx, hy]
      exact .ok none offset rfl rfl ⟨Nat.le_refl _, hinside.le_stop⟩
    | ok type after hx hy =>
      rw [hx, hy]
      exact .ok (some type) offset rfl rfl ⟨Nat.le_refl _, hinside.le_stop⟩

/-- What is read only if its type is next. -/
protected theorem optional (type : UInt64) (h : Follows g least r) :
    Follows (optional type g) 0 (Reader.optional type r) :=
  .bind .peek fun _ => .ite (.map some h) (.pure none)

/-! ### Sequences -/

protected theorem many (h : Follows g least r) (hleast : 0 < least) :
    Follows (many g) 0 (Reader.many r) where
  tallies hinside := by
    have hitems := Tallies.many (P := fun _ _ _ => True) (fun _ _ _ _ _ _ _ _ => trivial)
      (fun _ h' => (h.tallies h').weaken fun a after hafter => ⟨by omega, hafter.2, trivial⟩) hinside
    exact hitems.weaken fun items after hafter => ⟨hafter.1, hafter.2.1⟩

protected theorem tail : Follows tail 0 Reader.tail where
  tallies := Tallies.tail

protected theorem inside (type : UInt64) (h : Follows g least r) :
    Follows (enter type >>= fun last => within last g) 2
      (Reader.enter type >>= fun last => Reader.within last r) where
  tallies hinside := .inside type hinside fun last after hle hstop hvalue =>
    (h.tallies hvalue).weaken fun _ _ hafter => by omega

protected theorem nested (type : UInt64) (h : Follows g least r) :
    Follows (nested type g) 2 (Reader.nested type r) :=
  .forward (.inside type (.bind h fun a => .bind .tail fun _ => .pure a)) (by decide)

/-- The bytes that were read are an input that can be read in turn. -/
theorem tallies_withBytes (h : Follows g least r) {input : Bytes} {stop offset : Nat}
    (hinside : Inside input stop offset) :
    Tallies input (fun p after => (offset + least ≤ after ∧ after ≤ stop) ∧ Addressable p.2)
      (withBytes g input stop offset) (Reader.withBytes r stop (.ofOffset input offset)) := by
  have hbytes := Tallies.withBytes (h.tallies hinside) fun a after hafter =>
    ⟨by omega, Nat.le_trans hafter.2 hinside.stop_le⟩
  exact hbytes.weaken fun p after hp => ⟨hp.1, Nat.lt_of_le_of_lt hp.2 hinside.addressable⟩

protected theorem withBytes (h : Follows g least r) :
    Follows (withBytes g) least (Reader.withBytes r) where
  tallies hinside := (h.tallies_withBytes hinside).weaken fun _ _ hafter => hafter.1

protected theorem optionalNested (type : UInt64) (h : Follows g least r) :
    Follows (optionalNested type g) 0 (Reader.optionalNested type r) :=
  .optional type (.nested type h)

/-! ### Reading an input -/

theorem inside_start {input : Bytes} (haddr : Addressable input) : Inside input input.length 0 :=
  ⟨haddr, Nat.zero_le _, Nat.le_refl _⟩

/-- An addressable input is read without a fault. -/
theorem value_eq (h : Follows g least r) {input : Bytes} (haddr : Addressable input) :
    g.value input = .ok (r.value input) := by
  unfold value run Reader.value Reader.run
  cases h.tallies (inside_start haddr) with
  | error e hx hy =>
    have hread : r input.length ⟨0, input⟩ = .error e := hy
    rw [hx, hread]
    rfl
  | ok a after hx hy =>
    have hread : r input.length ⟨0, input⟩ = .ok (a, .ofOffset input after) := hy
    rw [hx, hread]
    rfl

end Follows

end Checked

end NamedData.Wire
