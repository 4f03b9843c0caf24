import HostedFs.Time.Timespec

/-! # Points of the system clock

    The clock counts nanoseconds from the epoch; its whole seconds fit a
    signed 64-bit integer. A time stamp whose nanoseconds exceed a second can
    lie beyond the last instant, and then has none.
-/

namespace HostedFs

/-- A point of the system clock. -/
structure Instant where
  /-- Nanoseconds since the epoch. -/
  nanos : Int
  le_seconds : (Word.kind Int64).Contains (nanos / Timespec.perSecond)

namespace Instant

/-- The instant that many nanoseconds from the epoch, if the clock reaches it. -/
def ofNanos? (nanos : Int) : Option Instant :=
  if h : (Word.kind Int64).Contains (nanos / Timespec.perSecond) then some ⟨nanos, h⟩ else none

/-- The epoch. -/
def epoch : Instant :=
  ⟨0, by decide⟩

/-- The instant that is later by that many nanoseconds, if the clock reaches it. -/
def later? (i : Instant) (distance : Nat) : Option Instant :=
  ofNanos? (i.nanos + distance)

/-- The instant that is earlier by that many nanoseconds, if the clock reaches it. -/
def earlier? (i : Instant) (distance : Nat) : Option Instant :=
  ofNanos? (i.nanos - distance)

/-- Whole seconds of a distance, at most the greatest that a stamp has. -/
def secondsOf (distance : Int) : Int64 :=
  Int64.ofInt ((Word.kind Int64).clamp (distance / Timespec.perSecond))

/-- Nanoseconds of a distance beyond its whole seconds. -/
def subsecondsOf (distance : Int) : Int64 :=
  Int64.ofInt (distance % Timespec.perSecond)

/-- The stamp of an instant. Before the epoch the distance is split first and
    its parts are negated then. -/
def toTimespec (i : Instant) : Timespec :=
  if 0 ≤ i.nanos then Timespec.ofParts (secondsOf i.nanos) (subsecondsOf i.nanos)
  else Timespec.ofParts (-secondsOf (-i.nanos)) (-subsecondsOf (-i.nanos))

end Instant

/-- The instant of a stamp, if the clock reaches it. Before the epoch the whole seconds are
    stepped back, and the nanoseconds forward again. -/
def Timespec.toInstant? (t : Timespec) : Option Instant :=
  let seconds := t.sec.toInt.natAbs * Timespec.perSecond.toNat
  if 0 ≤ t.sec.toInt then Instant.epoch.later? (seconds + t.nsec.toNat)
  else (Instant.epoch.earlier? seconds).bind (·.later? t.nsec.toNat)

end HostedFs
