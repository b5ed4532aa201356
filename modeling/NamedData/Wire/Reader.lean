import NamedData.Wire.Element

/-!
# Reading elements

A reader takes the offset at which the element around it ends and a cursor into the input, and gives
a value and the cursor after what it has read. The numbers of a header may lie beyond the end of the
surrounding element; its value may not. `nested` reads an element whose value is made of elements,
the known ones in their order and then a tail of unknown ones that may be skipped, and `many` reads
elements of one kind up to the end.
-/

namespace NamedData.Wire

/-- A place in the input. -/
structure Cursor where
  /-- How many bytes lie before it. -/
  offset : Nat
  /-- The bytes after it, up to the end of the input. -/
  rest : Bytes
  deriving DecidableEq, Repr

/-- The offset of the end of the input. -/
def Cursor.inputEnd (c : Cursor) : Nat :=
  c.offset + c.rest.length

/-- Reads a value at a cursor, inside an element that ends at the given offset. -/
def Reader (α : Type) : Type :=
  (stop : Nat) → Cursor → Except DecodingError (α × Cursor)

namespace Reader

variable {α β : Type}

/-- Reads nothing. -/
protected def pure (a : α) : Reader α :=
  fun _ c => .ok (a, c)

/-- Reads on after a first value, by what that value was. -/
protected def bind (r : Reader α) (next : α → Reader β) : Reader β :=
  fun stop c =>
    match r stop c with
    | .ok (a, c) => next a stop c
    | .error e => .error e

instance : Monad Reader where
  pure := Reader.pure
  bind := Reader.bind

/-- A reader that goes on after another succeeds if both do, one after the other. -/
theorem bind_eq_ok_iff {r : Reader α} {next : α → Reader β} {stop : Nat} {c c₂ : Cursor} {b : β} :
    (r >>= next) stop c = .ok (b, c₂)
      ↔ ∃ a c₁, r stop c = .ok (a, c₁) ∧ next a stop c₁ = .ok (b, c₂) := by
  show (match r stop c with | .ok (a, c) => next a stop c | .error e => .error e) = _ ↔ _
  cases r stop c with
  | error e => simp
  | ok p =>
    refine ⟨fun h => ⟨p.1, p.2, rfl, h⟩, ?_⟩
    rintro ⟨a, c₁, h, hnext⟩
    cases h
    exact hnext

theorem pure_apply (a : α) (stop : Nat) (c : Cursor) :
    (pure a : Reader α) stop c = .ok (a, c) := rfl

/-- Gives up. -/
def fail (e : DecodingError) : Reader α :=
  fun _ _ => .error e

/-- Takes a result that is there already. -/
def lift (result : Except DecodingError α) : Reader α :=
  fun _ c => result.map (·, c)

/-- Reads inside an element that ends at another offset. -/
def within (stop : Nat) (r : Reader α) : Reader α :=
  fun _ c => r stop c

/-- The offset of the cursor. -/
def offset : Reader Nat :=
  fun _ c => .ok (c.offset, c)

/-- Reads a value and the bytes it was read from. -/
def withBytes (r : Reader α) : Reader (α × Bytes) :=
  fun stop c =>
    (r stop c).map fun (a, c₁) => ((a, c.rest.take (c₁.offset - c.offset)), c₁)

/-! ## Headers and values -/

/-- How many bytes of a number follow a first byte that is not the number itself. -/
def wideWidth? (first : UInt8) : Option Nat :=
  if first = 253 then some 2
  else if first = 254 then some 4
  else if first = 255 then some 8
  else none

theorem wideWidth?_eq_some {first : UInt8} {width : Nat} (h : wideWidth? first = some width) :
    width = 2 ∨ width = 4 ∨ width = 8 := by
  unfold wideWidth? at h
  grind

/-- Reads a type or length number in any of its four forms. -/
def number : Reader UInt64 :=
  fun _ c =>
    match c.rest with
    | [] => .error (.truncated c.offset)
    | first :: rest =>
      match wideWidth? first with
      | none => .ok (first.toUInt64, ⟨c.offset + 1, rest⟩)
      | some width =>
        if rest.length < width then .error (.truncated (c.offset + 1))
        else
          .ok (UInt64.ofNat (Bytes.ofBigEndian (rest.take width)),
            ⟨c.offset + 1 + width, rest.drop width⟩)

/-- Reads a header: the type and the offset at which the value ends. The value must lie in the input
and in the surrounding element. -/
def header : Reader (UInt64 × Nat) :=
  fun stop c => do
    let (type, c₁) ← number stop c
    let (length, c₂) ← number stop c₁
    let valueEnd := c₂.offset + length.toNat
    -- The input comes before the surrounding element: what was cut off overruns nothing.
    if UInt64.size ≤ valueEnd then .error (.truncated c₂.offset)
    else if c₂.inputEnd < valueEnd then .error (.truncated c₂.inputEnd)
    else if stop < valueEnd then .error (.overrun c.offset stop)
    else .ok ((type, valueEnd), c₂)

/-- Reads the bytes up to an offset. -/
def upTo (valueEnd : Nat) : Reader Bytes :=
  fun _ c =>
    let length := valueEnd - c.offset
    .ok (c.rest.take length, ⟨valueEnd, c.rest.drop length⟩)

/-- The type of the next element, none at the end of the surrounding element or if there is no
number. -/
def peek : Reader (Option UInt64) :=
  fun stop c =>
    if stop ≤ c.offset then .ok (none, c)
    else
      match number stop c with
      | .ok (type, _) => .ok (some type, c)
      | .error _ => .ok (none, c)

/-- Reads an element of any type. -/
def any : Reader (UInt64 × Bytes) := do
  let (type, valueEnd) ← header
  let value ← upTo valueEnd
  return (type, value)

/-- Reads the header of an element that must have the given type. -/
def enter (expected : UInt64) : Reader Nat := do
  let start ← offset
  let (type, valueEnd) ← header
  if type = expected then return valueEnd
  else fail (.unexpectedType expected type start)

/-- Reads an element of the given type. -/
def blob (expected : UInt64) : Reader Bytes := do
  let valueEnd ← enter expected
  upTo valueEnd

/-- Reads an element of the given type whose value is a number. -/
def integer (expected : UInt64) : Reader UInt64 := do
  let value ← blob expected
  lift (Integer.decode value)

/-- Reads something if the next element has the given type. -/
def optional (type : UInt64) (r : Reader α) : Reader (Option α) := do
  if (← peek) = some type then some <$> r else return none

/-! ## Sequences -/

/-- Reads at most `count` items before the end of the surrounding element. -/
def atMost (item : Reader α) : (count : Nat) → Reader (List α)
  | 0 => pure []
  | count + 1 => fun stop c =>
    if stop ≤ c.offset then .ok ([], c)
    else
      match item stop c with
      | .error e => .error e
      | .ok (a, c) => (atMost item count stop c).map fun (items, c) => (a :: items, c)

/-- Reads items up to the end of the surrounding element; as every item has a byte at least, there
are no more of them than bytes. -/
def many (item : Reader α) : Reader (List α) :=
  fun stop c => atMost item (stop - c.offset) stop c

/-- Skips an unknown element, unless it is critical. -/
def skipUnknown : Reader Unit := do
  let (type, valueEnd) ← header
  if ElementType.isCritical type then fail (.unrecognizedCriticalType type)
  let _ ← upTo valueEnd

/-- Skips unknown elements up to the end of the surrounding element. -/
def tail : Reader Unit := do
  let _ ← many skipUnknown

/-- Reads an element of the given type whose value is read by `body` up to a tail. -/
def nested (type : UInt64) (body : Reader α) : Reader α := do
  let valueEnd ← enter type
  within valueEnd do
    let a ← body
    tail
    return a

/-- Reads an element of the given type if it is next, as `nested` does. -/
def optionalNested (type : UInt64) (body : Reader α) : Reader (Option α) :=
  optional type (nested type body)

/-- Reads from the start of an input. -/
def run (r : Reader α) (input : Bytes) : Except DecodingError (α × Cursor) :=
  r input.length ⟨0, input⟩

/-- What is read from the start of an input. -/
def value (r : Reader α) (input : Bytes) : Except DecodingError α :=
  (r.run input).map Prod.fst

end Reader

end NamedData.Wire
