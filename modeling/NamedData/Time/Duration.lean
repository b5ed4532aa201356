/-!
# Durations

A duration is a whole number of nanoseconds. Wire fields hold whole milliseconds in 64 bits:
`wholeMillis` rounds down to them, `saturatedMillis` is the field's value, and `ofMillis` reads it.
-/

namespace NamedData.Time

/-- A span of time. -/
structure Duration where
  /-- Its length in nanoseconds. -/
  nanos : Nat
  deriving DecidableEq, Repr

namespace Duration

/-- A duration of whole milliseconds. -/
def ofMillis (millis : UInt64) : Duration :=
  ⟨millis.toNat * 1000000⟩

/-- A duration of whole seconds and nanoseconds. -/
def ofParts (seconds nanos : Nat) : Duration :=
  ⟨seconds * 1000000000 + nanos⟩

/-- The whole seconds. -/
def seconds (d : Duration) : Nat :=
  d.nanos / 1000000000

/-- The nanoseconds past the whole seconds. -/
def subsecondNanos (d : Duration) : Nat :=
  d.nanos % 1000000000

/-- The whole milliseconds. -/
def wholeMillis (d : Duration) : Nat :=
  d.nanos / 1000000

/-- The whole milliseconds, or the largest 64-bit number if there are more. -/
def saturatedMillis (d : Duration) : UInt64 :=
  UInt64.ofNat (min d.wholeMillis (UInt64.size - 1))

/-- The whole milliseconds modulo the range of 64-bit numbers. -/
def truncatedMillis (d : Duration) : UInt64 :=
  UInt64.ofNat d.wholeMillis

/-- Whole milliseconds are read back. -/
theorem saturatedMillis_ofMillis (millis : UInt64) :
    (ofMillis millis).saturatedMillis = millis := by
  have hdiv : millis.toNat * 1000000 / 1000000 = millis.toNat := Nat.mul_div_cancel _ (by decide)
  have hmin : min millis.toNat (UInt64.size - 1) = millis.toNat := by have := millis.toNat_lt_size; omega
  simp only [saturatedMillis, wholeMillis, ofMillis, hdiv, hmin, UInt64.ofNat_toNat]

end Duration

end NamedData.Time
