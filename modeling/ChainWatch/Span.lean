/-
Spans of time.

A span is whole seconds and the nanoseconds beyond them. Settings and error texts count
in whole milliseconds of 64 bits: a span is rounded down to them, and one too long for
them counts as the largest. Clocks that tick every millisecond have let a span pass only
at the tick at its end or the next one after it, which `fullMillis` counts.
-/

set_option autoImplicit false

namespace ChainWatch

/-- Seconds, and less than one second of nanoseconds. -/
structure Span where
  secs : UInt64
  nanos : UInt32
  nanos_lt : nanos.toNat < 1000000000
  deriving DecidableEq

namespace Span

/-- The length of a span in nanoseconds. -/
def totalNanos (d : Span) : Nat := d.secs.toNat * 1000000000 + d.nanos.toNat

/-- The whole milliseconds in a span, at most the largest 64-bit number. -/
def wholeMillis (d : Span) : UInt64 :=
  UInt64.ofNat (min (d.secs.toNat * 1000 + d.nanos.toNat / 1000000) (UInt64.size - 1))

/-- The milliseconds until a span has passed in full. -/
def fullMillis (d : Span) : Nat := (d.totalNanos + 999999) / 1000000

/-- The tick that lets a span pass, in nanoseconds. -/
def passedAt (d : Span) : Nat := d.fullMillis * 1000000

/-- The span of so many milliseconds. -/
def ofMillis (ms : UInt64) : Span where
  secs := UInt64.ofNat (ms.toNat / 1000)
  nanos := UInt32.ofNat (ms.toNat % 1000 * 1000000)
  nanos_lt := by
    have hms : ms.toNat % 1000 < 1000 := Nat.mod_lt _ (by decide)
    simp only [UInt32.toNat_ofNat']
    exact Nat.lt_of_le_of_lt (Nat.mod_le _ _) (by omega)

/-- The span with the given parts, if the second part is less than a second. -/
def ofParts? (secs : UInt64) (nanos : UInt32) : Option Span :=
  if h : nanos.toNat < 1000000000 then some ⟨secs, nanos, h⟩ else none

end Span

end ChainWatch
