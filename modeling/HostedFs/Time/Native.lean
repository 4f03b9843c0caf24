import HostedFs.Time.Timespec

/-! # Time stamps of the native side

    The native side writes a time as a raw pair of 64-bit integers. Where a
    time is to be set, two values of the nanoseconds are marks instead: the
    current time, or no change.
-/

namespace HostedFs

/-- Seconds and nanoseconds as the native side writes them. -/
structure RawTime where
  sec : Int64
  nsec : Int64
  deriving DecidableEq, Repr

/-- What a request asks for a time to become. -/
inductive TimeUpdate
  /-- The current time. -/
  | now
  /-- What it was. -/
  | omit
  | set (time : Timespec)
  deriving DecidableEq, Repr

namespace RawTime

/-- The nanoseconds that mean the current time. -/
def nowMark : Int64 :=
  1073741823

/-- The nanoseconds that mean no change. -/
def omitMark : Int64 :=
  1073741822

/-- The pair that the native side reads for a stamp. -/
def ofTimespec (t : Timespec) : RawTime :=
  ⟨fit t.sec, fit t.nsec⟩

/-- The stamp of a pair, whatever its nanoseconds are. -/
def toTimespec (r : RawTime) : Timespec :=
  Timespec.ofParts r.sec r.nsec

/-- What a pair asks for. -/
def toUpdate (r : RawTime) : TimeUpdate :=
  if r.nsec = nowMark then .now
  else if r.nsec = omitMark then .omit
  else .set r.toTimespec

/-- It asks for the one thing or the other by its nanoseconds. -/
theorem toUpdate_cases (r : RawTime) :
    (r.nsec = nowMark ∧ r.toUpdate = .now) ∨ (r.nsec = omitMark ∧ r.toUpdate = .omit) ∨
      (r.nsec ≠ nowMark ∧ r.nsec ≠ omitMark) ∧ r.toUpdate = .set r.toTimespec := by
  unfold toUpdate
  split
  next hnow => exact .inl ⟨hnow, rfl⟩
  next hnow =>
    split
    next homit => exact .inr (.inl ⟨homit, rfl⟩)
    next homit => exact .inr (.inr ⟨⟨hnow, homit⟩, rfl⟩)

variable {r : RawTime} {t : Timespec}

theorem toUpdate_eq_now_iff : r.toUpdate = .now ↔ r.nsec = nowMark := by
  have hmarks : nowMark ≠ omitMark := by decide
  rcases r.toUpdate_cases with ⟨hmark, hupdate⟩ | ⟨hmark, hupdate⟩ | ⟨hplain, hupdate⟩
  · simp [hmark, hupdate]
  · simp [hmark, hupdate, hmarks.symm]
  · simp [hplain.1, hupdate]

theorem toUpdate_eq_omit_iff : r.toUpdate = .omit ↔ r.nsec = omitMark := by
  have hmarks : omitMark ≠ nowMark := by decide
  rcases r.toUpdate_cases with ⟨hmark, hupdate⟩ | ⟨hmark, hupdate⟩ | ⟨hplain, hupdate⟩
  · simp [hmark, hupdate, hmarks.symm]
  · simp [hmark, hupdate]
  · simp [hplain.2, hupdate]

/-- A pair asks for a stamp if its nanoseconds are no mark and its parts are made that stamp. -/
theorem toUpdate_eq_set_iff :
    r.toUpdate = .set t ↔ (r.nsec ≠ nowMark ∧ r.nsec ≠ omitMark) ∧ t = r.toTimespec := by
  rcases r.toUpdate_cases with ⟨hmark, hupdate⟩ | ⟨hmark, hupdate⟩ | ⟨hplain, hupdate⟩
  · simp [hmark, hupdate]
  · simp [hmark, hupdate]
  · rw [hupdate]
    constructor
    · intro h
      exact ⟨hplain, (TimeUpdate.set.inj h).symm⟩
    · rintro ⟨-, rfl⟩
      rfl

end RawTime

end HostedFs
