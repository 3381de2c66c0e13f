import Mathlib

/-!
# Times and durations (`crates/nexus-common/src/time.rs`)

A `UnixTimestamp` is a count of whole seconds. Durations and the instants of the
monotonic clock are counts of nanoseconds.
-/

namespace UnixTime

/-- A `Duration` in nanoseconds. -/
abbrev Duration := Nat

def nanosPerSec : Nat := 1000000000

def fromSecs (secs : Nat) : Duration := secs * nanosPerSec

def asSecs (d : Duration) : Nat := d / nanosPerSec

/-- `UnixTimestamp::saturating_add`, which adds the whole seconds of a duration. -/
def saturatingAdd (t : UInt64) (d : Duration) : UInt64 :=
  UInt64.ofNat (min (t.toNat + asSecs d) (2 ^ 64 - 1))

def saturatingDurationSince (t earlier : UInt64) : Duration := fromSecs (t.toNat - earlier.toNat)

/-- The wall clock in whole seconds, at a time in nanoseconds. -/
def wallSecs (nanos : Nat) : Nat := nanos / nanosPerSec

end UnixTime
