import NamedData.Proofs.Wire.Shortest

/-!
# Serialization

A `Writer` appends to the bytes that have been written, and gives a value, or fails. Numbers are cut
down to the width of the form in which they are written. The value of an element that is made of
elements is written by itself, and then appended behind its header (`Writer.nested`), which gives the
offset at which the value starts.

Numbers and elements are read back from what is appended for them, whatever else there is in front of
it and behind it, and no number has another form that is as short (`numbers_and_elements_read_back`).
-/

namespace NamedData.Wire

/-- Appends to the bytes that have been written, and gives a value, or fails. -/
abbrev Writer : Type → Type :=
  StateT Bytes (Except EncodingError)

namespace Writer

variable {α β : Type}

/-! ## Bytes and numbers -/

/-- How many bytes have been written. -/
def offset : Writer Nat :=
  return (← get).length

/-- Appends bytes as they are. -/
def raw (bytes : Bytes) : Writer Unit :=
  modify (· ++ bytes)

/-- Appends a byte. -/
def byte (n : UInt8) : Writer Unit :=
  raw [n]

/-- Appends the two bytes of a number. -/
def word16 (n : UInt16) : Writer Unit :=
  raw (Bytes.bigEndian 2 n.toNat)

/-- Appends the four bytes of a number. -/
def word32 (n : UInt32) : Writer Unit :=
  raw (Bytes.bigEndian 4 n.toNat)

/-- Appends the eight bytes of a number. -/
def word64 (n : UInt64) : Writer Unit :=
  raw (Bytes.bigEndian 8 n.toNat)

/-- Appends a type or length number. -/
def number (n : UInt64) : Writer Unit :=
  if n < 253 then byte n.toUInt8
  else if n ≤ 0xFFFF then do
    byte 253
    word16 n.toUInt16
  else if n ≤ 0xFFFFFFFF then do
    byte 254
    word32 n.toUInt32
  else do
    byte 255
    word64 n

/-- Appends a number as a value. -/
def digits (n : UInt64) : Writer Unit :=
  if n ≤ 0xFF then byte n.toUInt8
  else if n ≤ 0xFFFF then word16 n.toUInt16
  else if n ≤ 0xFFFFFFFF then word32 n.toUInt32
  else word64 n

/-! ## Elements -/

/-- Appends an element of the given type and value. -/
def blob (type : UInt64) (value : Bytes) : Writer Unit := do
  number type
  number (UInt64.ofNat value.length)
  raw value

/-- Appends an element whose value is a number. -/
def integer (type n : UInt64) : Writer Unit := do
  let (_, value) ← (digits n).run []
  blob type value

/-- Appends an element whose value is a number, or nothing. -/
def integer? (type : UInt64) (n : Option UInt64) : Writer Unit :=
  match n with
  | some n => integer type n
  | none => return

/-- Appends an element whose value `body` writes from no bytes, and gives the offset at which the value
starts besides what `body` gives. -/
def nested (type : UInt64) (body : Writer α) : Writer (α × Nat) := do
  let (a, value) ← body.run []
  number type
  number (UInt64.ofNat value.length)
  let start ← offset
  raw value
  return (a, start)

/-! ## What is appended -/

variable {written after : Bytes} {a : α}

/-- What goes on after a writer goes on behind what it has written. -/
theorem run_bind_ok {w : Writer α} (h : w.run written = .ok (a, after)) (next : α → Writer β) :
    (w >>= next).run written = (next a).run after := by
  rw [StateT.run_bind, h]
  rfl

theorem run_bind_error {w : Writer α} {e : EncodingError} (h : w.run written = .error e)
    (next : α → Writer β) : (w >>= next).run written = .error e := by
  rw [StateT.run_bind, h]
  rfl

theorem run_lift_ok {result : Except EncodingError α} (h : result = .ok a) (written : Bytes) :
    (liftM result : Writer α).run written = .ok (a, written) := by
  rw [h]
  rfl

theorem run_lift_error {result : Except EncodingError α} {e : EncodingError} (h : result = .error e)
    (written : Bytes) : (liftM result : Writer α).run written = .error e := by
  rw [h]
  rfl

@[simp] theorem run_offset (written : Bytes) :
    offset.run written = .ok (written.length, written) := rfl

@[simp] theorem run_raw (bytes written : Bytes) :
    (raw bytes).run written = .ok ((), written ++ bytes) := rfl

theorem run_byte_toUInt8 (n : UInt64) (written : Bytes) :
    (byte n.toUInt8).run written = .ok ((), written ++ Bytes.bigEndian 1 n.toNat) := rfl

theorem run_word16_toUInt16 {n : UInt64} (h : n.toNat < UInt16.size) (written : Bytes) :
    (word16 n.toUInt16).run written = .ok ((), written ++ Bytes.bigEndian 2 n.toNat) := by
  rw [word16, UInt64.toNat_toUInt16, Nat.mod_eq_of_lt h, run_raw]

theorem run_word32_toUInt32 {n : UInt64} (h : n.toNat < UInt32.size) (written : Bytes) :
    (word32 n.toUInt32).run written = .ok ((), written ++ Bytes.bigEndian 4 n.toNat) := by
  rw [word32, UInt64.toNat_toUInt32, Nat.mod_eq_of_lt h, run_raw]

/-- A marker in front of the bytes of a number. -/
theorem run_marker {w : Writer Unit} {bytes : Bytes} (marker : UInt8)
    (h : ∀ written, w.run written = .ok ((), written ++ bytes)) (written : Bytes) :
    (do byte marker; w).run written = .ok ((), written ++ marker :: bytes) := by
  have hmarker : (byte marker).run written = .ok ((), written ++ [marker]) := rfl
  rw [run_bind_ok hmarker, h, List.append_assoc, List.singleton_append]

private theorem lt_253_iff (n : UInt64) : n < 253 ↔ n.toNat < 253 :=
  UInt64.lt_iff_toNat_lt

private theorem le_max8_iff (n : UInt64) : n ≤ 0xFF ↔ n.toNat < UInt8.size :=
  UInt64.le_iff_toNat_le.trans Nat.lt_succ_iff.symm

private theorem le_max16_iff (n : UInt64) : n ≤ 0xFFFF ↔ n.toNat < UInt16.size :=
  UInt64.le_iff_toNat_le.trans Nat.lt_succ_iff.symm

private theorem le_max32_iff (n : UInt64) : n ≤ 0xFFFFFFFF ↔ n.toNat < UInt32.size :=
  UInt64.le_iff_toNat_le.trans Nat.lt_succ_iff.symm

/-- A type or length number is appended in its shortest form: it is below the bound of the width that
it is cut down to. -/
@[simp] theorem run_number (n : UInt64) (written : Bytes) :
    (number n).run written = .ok ((), written ++ Wire.number n) := by
  simp only [number, Wire.number, lt_253_iff, le_max16_iff, le_max32_iff]
  split
  · exact run_byte_toUInt8 n written
  split
  · next h => exact run_marker 253 (run_word16_toUInt16 h) written
  split
  · next h => exact run_marker 254 (run_word32_toUInt32 h) written
  · exact run_marker 255 (run_raw _) written

@[simp] theorem run_digits (n : UInt64) (written : Bytes) :
    (digits n).run written = .ok ((), written ++ Integer.encode n) := by
  simp only [digits, Integer.encode, le_max8_iff, le_max16_iff, le_max32_iff]
  split
  · exact run_byte_toUInt8 n written
  split
  · next h => exact run_word16_toUInt16 h written
  split
  · next h => exact run_word32_toUInt32 h written
  · exact run_raw _ written

/-- A header is its two numbers. -/
theorem run_header (type : UInt64) (length : Nat) (next : Writer β) (written : Bytes) :
    (do number type; number (UInt64.ofNat length); next).run written
      = next.run (written ++ header type length) := by
  rw [run_bind_ok (run_number type written), run_bind_ok (run_number _ _), List.append_assoc, header]

@[simp] theorem run_blob (type : UInt64) (value written : Bytes) :
    (blob type value).run written = .ok ((), written ++ element type value) := by
  rw [blob, run_header, run_raw, List.append_assoc, element]

@[simp] theorem run_integer (type n : UInt64) (written : Bytes) :
    (integer type n).run written = .ok ((), written ++ integerElement type n) := by
  have hvalue : (digits n).run [] = .ok ((), Integer.encode n) := run_digits n []
  rw [integer, run_bind_ok (run_lift_ok hvalue written), run_blob, integerElement]

@[simp] theorem run_integer? (type : UInt64) (n : Option UInt64) (written : Bytes) :
    (integer? type n).run written = .ok ((), written ++ integerElement? type n) := by
  cases n with
  | none => exact congrArg (fun bytes => Except.ok ((), bytes)) (List.append_nil written).symm
  | some n => exact run_integer type n written

/-- An element is appended whole, and its value starts behind the header. -/
theorem run_nested_ok {body : Writer α} {value : Bytes} (h : body.run [] = .ok (a, value))
    (type : UInt64) (written : Bytes) : (nested type body).run written
      = .ok ((a, (written ++ header type value.length).length),
          written ++ header type value.length ++ value) := by
  rw [nested, run_bind_ok (run_lift_ok h written)]
  exact run_header type value.length _ written

theorem run_nested_error {body : Writer α} {e : EncodingError} (h : body.run [] = .error e)
    (type : UInt64) (written : Bytes) : (nested type body).run written = .error e := by
  rw [nested, run_bind_error (run_lift_error h written)]

end Writer

/-! ## What is written is read back -/

/-- Of the byte strings with a property it is the shortest, and no other is as short. -/
structure IsShortestOf (P : Bytes → Prop) (bytes : Bytes) : Prop where
  holds : P bytes
  length_lt : ∀ other, P other → other ≠ bytes → bytes.length < other.length

/-- Wherever the bytes stand and whatever follows them, an element of the given type and value is read
from them and nothing of what follows, if the surrounding element ends there or later. -/
def IsReadAs (type : UInt64) (value bytes : Bytes) : Prop :=
  ∀ (offset : Nat) (following : Bytes) (stop : UInt64), offset + bytes.length ≤ stop.toNat →
    Reader.any stop.toNat ⟨offset, bytes ++ following⟩
      = .ok ((type, value), ⟨offset + bytes.length, following⟩)

/-- Bytes from which the number is read start with one of its forms, and may go on behind it. -/
theorem isShortestOf_number (n : UInt64) :
    IsShortestOf (Reader.number.value · = .ok n) (number n) := by
  have hwritten := numberForm_number n
  refine ⟨?_, fun other hother hne => ?_⟩
  · have hread := Reader.number_form hwritten (number n).length 0 []
    rw [List.append_nil] at hread
    exact Reader.value_eq_ok_iff.2 ⟨_, hread⟩
  · obtain ⟨c, hrun⟩ := Reader.value_eq_ok_iff.1 hother
    obtain ⟨form, hform, hrest, -⟩ := Reader.number_eq_ok_iff.1 hrun
    have hother : other = form ++ c.rest := hrest
    have hle := length_number_le hform (UInt64.le_refl n)
    refine Nat.lt_of_not_le fun hshort => hne ?_
    rw [hother, List.length_append] at hshort
    have hnothing : c.rest = [] := List.eq_nil_of_length_eq_zero (by omega)
    rw [hother, hnothing, List.append_nil, hform.eq_of_length_eq hwritten (by omega)]

theorem isShortestOf_encode (n : UInt64) :
    IsShortestOf (Integer.decode · = .ok n) (Integer.encode n) := by
  have hwritten := Integer.decode_encode n
  refine ⟨hwritten, fun other hother hne => ?_⟩
  refine Nat.lt_of_le_of_ne (Integer.length_encode_le hother) fun hlength => hne ?_
  exact Integer.eq_of_length_eq hother hwritten hlength.symm

theorem isReadAs_element (type : UInt64) (value : Bytes) :
    IsReadAs type value (element type value) := by
  intro offset following stop hstop
  have hlt : stop.toNat < UInt64.size := stop.toNat_lt
  have hle := length_le_element type value
  let e := Element.written type value (by omega)
  have hmoves : Cursor.Moves ⟨offset, e.bytes ++ following⟩ e.bytes
      ⟨offset + e.bytes.length, following⟩ := ⟨rfl, rfl⟩
  exact Reader.AcceptsElement.any.complete (e := e) rfl hmoves hstop hlt

/-- Type and length numbers, and numbers as values, are read back from what is appended for them, and
from no other bytes that are as short. An element is read back with its type and value. So is one whose
value a writer writes, if that writer does not fail, and the offset that comes with it is the one at
which this value starts. -/
theorem numbers_and_elements_read_back :
    (∀ n : UInt64,
      (∀ written, (Writer.number n).run written = .ok ((), written ++ number n))
      ∧ (∀ stop offset following, Reader.number stop ⟨offset, number n ++ following⟩
        = .ok (n, ⟨offset + (number n).length, following⟩))
      ∧ IsShortestOf (Reader.number.value · = .ok n) (number n)
      ∧ (∀ written, (Writer.digits n).run written = .ok ((), written ++ Integer.encode n))
      ∧ Integer.decode (Integer.encode n) = .ok n
      ∧ IsShortestOf (Integer.decode · = .ok n) (Integer.encode n))
    ∧ (∀ type value,
      (∀ written, (Writer.blob type value).run written = .ok ((), written ++ element type value))
      ∧ IsReadAs type value (element type value))
    ∧ ∀ {α : Type} (type : UInt64) (body : Writer α),
      (∀ a value, body.run [] = .ok (a, value) → ∃ head, IsReadAs type value (head ++ value)
        ∧ ∀ written, (Writer.nested type body).run written
          = .ok ((a, (written ++ head).length), written ++ head ++ value))
      ∧ ∀ e, body.run [] = .error e → ∀ written, (Writer.nested type body).run written = .error e := by
  refine ⟨fun n => ⟨Writer.run_number n, ?_, isShortestOf_number n, Writer.run_digits n,
    Integer.decode_encode n, isShortestOf_encode n⟩, fun type value => ⟨Writer.run_blob type value,
    isReadAs_element type value⟩, fun type body => ⟨fun a value hbody => ?_, fun e hbody => ?_⟩⟩
  · intro stop offset following
    exact Reader.number_form (numberForm_number n) stop offset following
  · exact ⟨header type value.length, isReadAs_element type value, Writer.run_nested_ok hbody type⟩
  · exact Writer.run_nested_error hbody type

/-- A refusal with a reason. Both types are numbers of three bytes. -/
def nestedNack : Bytes :=
  [0xfd, 0x03, 0x20, 0x05, 0xfd, 0x03, 0x21, 0x01, 0x96]

/-- The smallest number with a marker, in a form that is too wide, and a refusal that is written behind an
empty name and read inside an element that goes on behind it. -/
theorem numbers_and_elements_read_back_nack :
    Reader.number.value [0xfe, 0x00, 0x00, 0x00, 0xfd] = .ok 253
      ∧ (number 253).length < 5
      ∧ (Writer.nested ElementType.networkNack (Writer.integer ElementType.nackReason 150)).run
        [0x07, 0x00] = .ok (((), 6), [0x07, 0x00] ++ nestedNack)
      ∧ Reader.any 300 ⟨2, nestedNack ++ [0xaa]⟩
        = .ok ((ElementType.networkNack, nestedNack.drop 4), ⟨11, [0xaa]⟩) := by
  obtain ⟨hnumber, -, hnested⟩ := numbers_and_elements_read_back
  obtain ⟨-, -, ⟨-, hshortest⟩, -⟩ := hnumber 253
  have hlong : Reader.number.value [0xfe, 0x00, 0x00, 0x00, 0xfd] = .ok 253 := rfl
  have hrun : (Writer.nested ElementType.networkNack (Writer.integer ElementType.nackReason 150)).run
      [0x07, 0x00] = .ok (((), 6), [0x07, 0x00] ++ nestedNack) := rfl
  obtain ⟨hok, -⟩ := hnested ElementType.networkNack (Writer.integer ElementType.nackReason 150)
  obtain ⟨head, hread, hwritten⟩ := hok () (nestedNack.drop 4) rfl
  have hhead : head ++ nestedNack.drop 4 = nestedNack := by
    have hbytes := (hwritten [0x07, 0x00]).symm.trans hrun
    rw [List.append_assoc] at hbytes
    exact List.append_cancel_left (congrArg Prod.snd (Except.ok.inj hbytes))
  rw [hhead] at hread
  exact ⟨hlong, hshortest _ hlong (by decide), hrun, hread 2 [0xaa] 300 (by decide)⟩

end NamedData.Wire
