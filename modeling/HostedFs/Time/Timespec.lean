import HostedFs.Word

/-! # Time stamps

    A time stamp counts whole seconds from the epoch and nanoseconds after
    them. Times before the epoch have negative seconds and nanoseconds that
    count forward, so the order of time stamps is lexicographic.

    * `Timespec.total`: the stamp in nanoseconds, exactly;
    * `Timespec.ofParts`: carries surplus nanoseconds into the seconds.
-/

namespace HostedFs

/-- A time stamp. -/
structure Timespec where
  sec : Int64
  nsec : UInt32
  deriving DecidableEq, Repr

namespace Timespec

/-- Nanoseconds in a second. -/
def perSecond : Int :=
  1000000000

/-- The epoch. -/
def zero : Timespec :=
  ⟨0, 0⟩

instance : Inhabited Timespec :=
  ⟨zero⟩

/-- The stamp is the epoch itself. -/
def isZero (t : Timespec) : Bool :=
  t.sec == 0 && t.nsec == 0

/-- Nanoseconds since the epoch. -/
def total (t : Timespec) : Int :=
  t.sec.toInt * perSecond + t.nsec.toNat

/-- The nanoseconds are less than a second. -/
def IsNormal (t : Timespec) : Prop :=
  (t.nsec.toNat : Int) < perSecond

instance (t : Timespec) : Decidable t.IsNormal :=
  inferInstanceAs (Decidable (_ < _))

/-- Seconds and nanoseconds as a normal time stamp. Whole seconds among the
    nanoseconds, counted toward the past, are carried; the seconds stop at the
    limits of their type. -/
def ofParts (sec nsec : Int64) : Timespec where
  sec := Int64.ofInt ((Word.kind Int64).clamp (sec.toInt + nsec.toInt / perSecond))
  nsec := UInt32.ofNat (nsec.toInt % perSecond).toNat

/-- Earlier seconds come first, then earlier nanoseconds. -/
def compare (a b : Timespec) : Ordering :=
  (Ord.compare a.sec.toInt b.sec.toInt).then (Ord.compare a.nsec.toNat b.nsec.toNat)

instance : Ord Timespec :=
  ⟨compare⟩

/-- The stamps from earlier to later; equal ones keep their order. -/
def sort (ts : List Timespec) : List Timespec :=
  ts.mergeSort fun a b => (compare a b).isLE

/-- A number with zeros put before it up to a number of digits. -/
def padded (digits n : Nat) : String :=
  let text := toString n
  "".pushn '0' (digits - text.length) ++ text

/-- The stamp as messages show it, with nine digits after the point. -/
def render (t : Timespec) : String :=
  s!"Timespec({t.sec.toInt}.{padded 9 t.nsec.toNat})"

end Timespec

end HostedFs
