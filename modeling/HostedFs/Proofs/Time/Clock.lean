import HostedFs.Proofs.Time.Normal

/-! # Time stamps and the clock

    A stamp is turned into an instant of the clock by steps from the epoch, and an instant
    into a stamp by its distance to the epoch. Both go through the total of nanoseconds.

    * `toInstant?_eq`: the steps lead to the total, or beyond the end of the clock.
    * `ofParts_congr`: the stamp that parts are made depends on their total alone.
    * `Instant.toTimespec_eq`: the parts of an instant have its total, but at the very start
      of the clock.
    * `clock_round_trip`: which stamp comes back.
-/

namespace HostedFs

namespace Timespec

/-! ## To the clock -/

/-- The stamp lies beyond the end of the clock. -/
def Overruns (t : Timespec) : Prop :=
  Int64.maxValue.toInt < t.sec.toInt + t.nsec.toNat / perSecond

instance (t : Timespec) : Decidable t.Overruns :=
  inferInstanceAs (Decidable (_ < _))

/-- The clock counts whole seconds in 64 bits. -/
theorem clock_contains_iff (n : Int) :
    (Word.kind Int64).Contains n ↔ -0x8000000000000000 ≤ n ∧ n < 0x8000000000000000 :=
  IntKind.contains_signed .w64 n

theorem contains_total_iff (t : Timespec) :
    (Word.kind Int64).Contains (t.total / perSecond) ↔ ¬ t.Overruns := by
  have hlow := t.sec.le_toInt
  rw [clock_contains_iff, Overruns, total, perSecond, Int64.toInt_maxValue]
  omega

theorem ofNanos?_eq_some_iff {n : Int} {i : Instant} :
    Instant.ofNanos? n = some i ↔ i.nanos = n := by
  unfold Instant.ofNanos?
  constructor
  · intro h
    split at h
    next =>
      cases h
      rfl
    next => cases h
  · rintro rfl
    exact dif_pos i.le_seconds

theorem ofNanos?_eq_none_iff {n : Int} :
    Instant.ofNanos? n = none ↔ ¬ (Word.kind Int64).Contains (n / perSecond) := by
  unfold Instant.ofNanos?
  split
  next h => simp [h]
  next h => simp [h]

/-- The steps from the epoch lead to the total of the stamp. Where a step is not possible,
    the total is beyond the end of the clock, too. -/
theorem toInstant?_eq (t : Timespec) : t.toInstant? = Instant.ofNanos? t.total := by
  have hlow := t.sec.le_toInt
  have hunit : perSecond.toNat = 1000000000 := by decide
  unfold toInstant?
  dsimp only
  rw [hunit]
  split
  next hnonneg =>
    show Instant.ofNanos? (0 + _) = _
    congr 1
    rw [total, perSecond]
    omega
  next hneg =>
    -- The whole seconds alone stay within the clock.
    have hback : (Word.kind Int64).Contains ((t.sec.toInt * 1000000000) / perSecond) := by
      rw [clock_contains_iff, perSecond]
      omega
    have hstep : Instant.epoch.earlier? (t.sec.toInt.natAbs * 1000000000) =
        some ⟨t.sec.toInt * 1000000000, hback⟩ := by
      rw [Instant.earlier?, ofNanos?_eq_some_iff]
      show t.sec.toInt * 1000000000 = 0 - _
      omega
    rw [hstep]
    rfl

/-! ## From the clock -/

/-- What parts are made depends on their total alone. -/
theorem ofParts_congr {sec nsec sec' nsec' : Int64}
    (h : sec.toInt * perSecond + nsec.toInt = sec'.toInt * perSecond + nsec'.toInt) :
    ofParts sec nsec = ofParts sec' nsec' := by
  rw [perSecond] at h
  have hsec : sec.toInt + nsec.toInt / 1000000000 = sec'.toInt + nsec'.toInt / 1000000000 := by
    omega
  have hnsec : nsec.toInt % 1000000000 = nsec'.toInt % 1000000000 := by
    omega
  rw [ofParts, ofParts, perSecond, hsec, hnsec]

/-- The seconds of a distance that fits them. -/
theorem toInt_secondsOf {distance : Int} (hnonneg : 0 ≤ distance)
    (hless : distance / perSecond < 0x8000000000000000) :
    (Instant.secondsOf distance).toInt = distance / perSecond := by
  have hcontains : (Word.kind Int64).Contains (distance / perSecond) := by
    rw [clock_contains_iff]
    rw [perSecond] at hless ⊢
    omega
  rw [Instant.secondsOf, IntKind.clamp_of_contains hcontains]
  exact Word.toInt_ofInt (α := Int64) _ hcontains

theorem toInt_subsecondsOf (distance : Int) :
    (Instant.subsecondsOf distance).toInt = distance % perSecond := by
  refine Word.toInt_ofInt (α := Int64) _ ?_
  rw [clock_contains_iff, perSecond]
  omega

/-- A count of seconds or nanoseconds is negated without a loss. -/
theorem toInt_neg_of_nonneg {a : Int64} (h : 0 ≤ a.toInt) : (-a).toInt = -a.toInt := by
  have hless := a.toInt_lt
  rw [Int64.toInt_neg]
  exact Int.bmod_eq_of_le (by omega) (by omega)

/-- The first stamp that the clock reaches. -/
def earliest : Timespec :=
  ⟨Int64.minValue, 0⟩

theorem total_earliest : earliest.total = -0x8000000000000000 * 1000000000 := by
  decide

theorem earliest_le (t : Timespec) : earliest.total ≤ t.total := by
  have hlow := t.sec.le_toInt
  rw [total_earliest, total, perSecond]
  omega

theorem total_eq_earliest_iff (t : Timespec) : t.total = earliest.total ↔ t = earliest := by
  have hlow := t.sec.le_toInt
  constructor
  · intro h
    rw [total_earliest, total, perSecond] at h
    obtain ⟨sec, nsec⟩ := t
    dsimp only at h hlow
    have hsec : sec = Int64.minValue := by
      apply Int64.toInt_inj.mp
      rw [Int64.toInt_minValue]
      omega
    have hnsec : nsec = 0 := by
      apply UInt32.toNat_inj.mp
      show nsec.toNat = 0
      omega
    rw [hsec, hnsec, earliest]
  · rintro rfl
    rfl

/-- An instant is split without a loss, unless it is the very first: the seconds to it
    are one more than a stamp can count. -/
theorem toTimespec_eq {i : Instant} {sec nsec : Int64}
    (htotal : sec.toInt * perSecond + nsec.toInt = i.nanos)
    (hlate : earliest.total < i.nanos) : i.toTimespec = ofParts sec nsec := by
  obtain ⟨nanos, hreach⟩ := i
  change earliest.total < nanos at hlate
  rw [clock_contains_iff] at hreach
  rw [total_earliest] at hlate
  unfold Instant.toTimespec
  dsimp only at htotal ⊢
  split
  next hnonneg =>
    apply ofParts_congr
    rw [toInt_secondsOf hnonneg hreach.2, toInt_subsecondsOf, htotal]
    rw [perSecond]
    omega
  next hneg =>
    -- Before the epoch the distance is split, and both parts are negated.
    have hdistance : 0 ≤ -nanos := by omega
    have hless : -nanos / perSecond < 0x8000000000000000 := by
      rw [perSecond]
      omega
    have hsec := toInt_secondsOf hdistance hless
    have hnsec := toInt_subsecondsOf (-nanos)
    apply ofParts_congr
    rw [toInt_neg_of_nonneg, toInt_neg_of_nonneg, hsec, hnsec, htotal]
    · rw [perSecond]
      omega
    · rw [hnsec, perSecond]
      omega
    · rw [hsec, perSecond]
      omega

/-- The first instant of the clock comes back a second later. -/
theorem toTimespec_earliest {i : Instant} (h : i.nanos = earliest.total) :
    i.toTimespec = ⟨Int64.minValue + 1, 0⟩ := by
  obtain ⟨nanos, hreach⟩ := i
  obtain rfl : nanos = earliest.total := h
  have hsplit : ∀ reach, (⟨earliest.total, reach⟩ : Instant).toTimespec =
      ⟨Int64.minValue + 1, 0⟩ := by decide
  exact hsplit hreach

/-! ## There and back -/

/-- The nanoseconds of a stamp, as parts hold them. -/
theorem toInt_fit_nsec (t : Timespec) : ((fit t.nsec : Int64).toInt) = t.nsec.toNat := by
  have hless := t.nsec.toNat_lt
  refine toInt_fit_of_contains (α := UInt32) (β := Int64) ?_
  rw [clock_contains_iff]
  show -0x8000000000000000 ≤ (t.nsec.toNat : Int) ∧ (t.nsec.toNat : Int) < 0x8000000000000000
  omega

/-- A normal stamp is what its own parts are made. -/
theorem ofParts_self_iff (t : Timespec) : ofParts t.sec (fit t.nsec) = t ↔ t.IsNormal := by
  constructor
  · intro h
    rw [← h]
    exact isNormal_ofParts _ _
  · intro hnormal
    refine (carried_iff.mp ⟨hnormal, 0, ?_, ?_⟩).symm
    · rw [toInt_fit_nsec]
      omega
    · rw [Int.add_zero]
      exact (IntKind.clamp_of_contains (Word.contains_toInt t.sec)).symm

theorem toInstant?_eq_none_iff (t : Timespec) : t.toInstant? = none ↔ t.Overruns := by
  rw [toInstant?_eq, ofNanos?_eq_none_iff, contains_total_iff, Decidable.not_not]

/-- The stamp that comes back from the clock. -/
theorem toTimespec_of_toInstant? {t : Timespec} {i : Instant} (h : t.toInstant? = some i) :
    i.toTimespec =
      if t = earliest then ⟨Int64.minValue + 1, 0⟩ else ofParts t.sec (fit t.nsec) := by
  have hnanos : i.nanos = t.total := by
    rw [toInstant?_eq] at h
    exact ofNanos?_eq_some_iff.mp h
  split
  next hfirst => exact toTimespec_earliest (hnanos.trans (congrArg total hfirst))
  next hlater =>
    apply toTimespec_eq
    · rw [toInt_fit_nsec, hnanos, total]
    · have hne : t.total ≠ earliest.total := mt (total_eq_earliest_iff t).mp hlater
      have hle := earliest_le t
      omega

/-- A stamp that goes `toInstant?` and back `toTimespec`.

    It has no instant if it lies beyond the end of the clock, and only then. Any other comes back
    as `ofParts` of its seconds and nanoseconds, except the very first, which comes back a second
    later. So it comes back as it was if and only if it `IsNormal` and not that one. -/
theorem clock_round_trip (t : Timespec) :
    (t.toInstant? = none ↔
        Int64.maxValue.toInt < t.sec.toInt + t.nsec.toNat / perSecond) ∧
      t.toInstant?.map Instant.toTimespec =
        (if Int64.maxValue.toInt < t.sec.toInt + t.nsec.toNat / perSecond then none
        else if t = ⟨Int64.minValue, 0⟩ then some ⟨Int64.minValue + 1, 0⟩
        else some (ofParts t.sec (fit t.nsec))) ∧
      (t.toInstant?.map Instant.toTimespec = some t ↔
        t.IsNormal ∧ t ≠ ⟨Int64.minValue, 0⟩) := by
  have hnone := toInstant?_eq_none_iff t
  have hback : t.toInstant?.map Instant.toTimespec =
      if t.Overruns then none
      else if t = earliest then some ⟨Int64.minValue + 1, 0⟩
      else some (ofParts t.sec (fit t.nsec)) := by
    cases hinstant : t.toInstant? with
    | none =>
      rw [if_pos (hnone.mp hinstant)]
      rfl
    | some i =>
      have hreached : ¬ t.Overruns := fun h => by simp [hnone.mpr h] at hinstant
      rw [if_neg hreached, Option.map_some, toTimespec_of_toInstant? hinstant]
      split <;> rfl
  refine ⟨hnone, hback, ?_⟩
  rw [hback]
  constructor
  · intro h
    split at h
    next => cases h
    next =>
      split at h
      next hfirst =>
        rw [hfirst] at h
        exact absurd h (by decide)
      next hlater => exact ⟨(ofParts_self_iff t).mp (Option.some.inj h), hlater⟩
  · intro h
    obtain ⟨hnormal, hlater⟩ := h
    -- Normal nanoseconds do not carry, so that the seconds alone stay below the limit.
    have hreached : ¬ t.Overruns := by
      have hless := t.sec.toInt_lt
      rw [IsNormal, perSecond] at hnormal
      rw [Overruns, Int64.toInt_maxValue, perSecond]
      omega
    rw [if_neg hreached, if_neg (show t ≠ earliest from hlater), (ofParts_self_iff t).mpr hnormal]

/-- A whole second of nanoseconds, read from a document, is carried on the way. -/
example : ((⟨-2, 1000000000⟩ : Timespec).toInstant?.map Instant.toTimespec) = some ⟨-1, 0⟩ := by
  decide

end Timespec

end HostedFs
