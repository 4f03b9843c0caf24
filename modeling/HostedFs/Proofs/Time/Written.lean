import HostedFs.Proofs.Time.Clock
import HostedFs.Stat.Layout

/-! # Times that are written for the native side

    The pair that is written for a time stamp holds its seconds and nanoseconds as they
    are. The nanoseconds of a normal stamp are less than either mark, so a pair that is
    written for one is never taken for a mark when it is read again.

    * `RawTime.Tells`, `tells_iff`: the pair that holds a stamp exactly.
    * `RawTime.WrittenFor`: the pairs that are written for a stamp.
    * `times_read_back`: what is read of a pair that was written, and of any other.
-/

namespace HostedFs

namespace RawTime

variable {r : RawTime} {t : Timespec}

/-! ## Exact pairs -/

/-- The pair has the seconds and the nanoseconds of a stamp. -/
structure Tells (r : RawTime) (t : Timespec) : Prop where
  sec : r.sec.toInt = t.sec.toInt
  nsec : r.nsec.toInt = t.nsec.toNat

/-- No part of a stamp is clamped when it is written. -/
theorem tells_ofTimespec (t : Timespec) : (ofTimespec t).Tells t where
  sec := congrArg Int64.toInt (fit_self t.sec)
  nsec := Timespec.toInt_fit_nsec t

theorem tells_iff : r.Tells t ↔ r = ofTimespec t := by
  constructor
  · intro h
    have hwritten := tells_ofTimespec t
    cases r
    congr 1
    · exact Int64.toInt_inj.mp (h.sec.trans hwritten.sec.symm)
    · exact Int64.toInt_inj.mp (h.nsec.trans hwritten.nsec.symm)
  · rintro rfl
    exact tells_ofTimespec t

/-- A pair tells one stamp only. -/
theorem Tells.unique {t' : Timespec} (h : r.Tells t) (h' : r.Tells t') : t = t' := by
  have hsec : t.sec.toInt = t'.sec.toInt := h.sec.symm.trans h'.sec
  have hnsec : (t.nsec.toNat : Int) = t'.nsec.toNat := h.nsec.symm.trans h'.nsec
  cases t
  cases t'
  congr 1
  · exact Int64.toInt_inj.mp hsec
  · exact UInt32.toNat_inj.mp (Int.ofNat.inj hnsec)

/-- The pair is written for a stamp: by itself, or as a time of a file's record. -/
inductive WrittenFor (t : Timespec) : RawTime → Prop
  | alone : WrittenFor t (ofTimespec t)
  | accessed {s : Stat} (d : PosixStat) (h : s.atim = t) : WrittenFor t (d.store s).atim
  | modified {s : Stat} (d : PosixStat) (h : s.mtim = t) : WrittenFor t (d.store s).mtim
  | changed {s : Stat} (d : PosixStat) (h : s.ctim = t) : WrittenFor t (d.store s).ctim

theorem WrittenFor.tells (h : WrittenFor t r) : r.Tells t := by
  cases h with
  | alone => exact tells_ofTimespec t
  | accessed d h | modified d h | changed d h =>
    subst h
    exact tells_ofTimespec _

/-! ## Reading -/

/-- Parts are made the stamp that they tell, if that is normal. -/
theorem toTimespec_eq_iff (h : r.Tells t) : r.toTimespec = t ↔ t.IsNormal := by
  rw [tells_iff.mp h, toTimespec, ofTimespec, fit_self]
  exact t.ofParts_self_iff

theorem nsec_eq_nowMark_iff : r.nsec = nowMark ↔ r.nsec.toInt = 0x3fffffff :=
  Int64.toInt_inj.symm

theorem nsec_eq_omitMark_iff : r.nsec = omitMark ↔ r.nsec.toInt = 0x3ffffffe :=
  Int64.toInt_inj.symm

/-- The nanoseconds of a normal stamp are less than both marks. -/
theorem Tells.unmarked (h : r.Tells t) (hnormal : t.IsNormal) :
    r.nsec ≠ nowMark ∧ r.nsec ≠ omitMark := by
  have hless : r.nsec.toInt < 1000000000 := by
    rw [h.nsec]
    exact hnormal
  rw [Ne, Ne, nsec_eq_nowMark_iff, nsec_eq_omitMark_iff]
  omega

/-- Times that were written for the native side, and times that are read from it.

    A pair that was `WrittenFor` a stamp is read as that stamp if and only if the stamp
    `IsNormal`, and then it also asks for that stamp, and is no mark. Of all pairs, those with the
    one or the other of two nanoseconds ask for `now` and for `omit`; any other asks for the stamp
    that its parts are `Carried` to. -/
theorem times_read_back :
    (∀ t r, WrittenFor t r →
      (r.toTimespec = t ↔ t.IsNormal) ∧ (r.toUpdate = .set t ↔ t.IsNormal)) ∧
    ∀ r : RawTime,
      (r.toUpdate = .now ↔ r.nsec.toInt = 0x3fffffff) ∧
      (r.toUpdate = .omit ↔ r.nsec.toInt = 0x3ffffffe) ∧
      (r.toUpdate = .set r.toTimespec ↔
        r.nsec.toInt ≠ 0x3fffffff ∧ r.nsec.toInt ≠ 0x3ffffffe) ∧
      Timespec.Carried r.sec r.nsec r.toTimespec := by
  constructor
  · intro t r hwritten
    have htells := hwritten.tells
    have hread := toTimespec_eq_iff htells
    refine ⟨hread, ?_⟩
    rw [toUpdate_eq_set_iff]
    constructor
    · intro h
      exact hread.mp h.2.symm
    · intro hnormal
      exact ⟨htells.unmarked hnormal, (hread.mpr hnormal).symm⟩
  · intro r
    refine ⟨?_, ?_, ?_, Timespec.carried_ofParts r.sec r.nsec⟩
    · rw [toUpdate_eq_now_iff, nsec_eq_nowMark_iff]
    · rw [toUpdate_eq_omit_iff, nsec_eq_omitMark_iff]
    · rw [toUpdate_eq_set_iff, Ne, Ne, nsec_eq_nowMark_iff, nsec_eq_omitMark_iff]
      exact and_iff_left rfl

/-- A file that was read a nanosecond before the epoch. -/
def lastRead : Stat :=
  { atim := ⟨-1, 999999999⟩ }

/-- It is read back from a record that was in use before. -/
theorem times_read_back_before_epoch :
    ((⟨7, 8, 9, 10, 11, 12, 13, 14, 15, 16, ⟨17, nowMark⟩, ⟨18, 19⟩, ⟨20, omitMark⟩⟩ :
      PosixStat).store lastRead).atim.toUpdate = .set ⟨-1, 999999999⟩ := by
  have hwritten := WrittenFor.accessed (t := ⟨-1, 999999999⟩) (s := lastRead)
    ⟨7, 8, 9, 10, 11, 12, 13, 14, 15, 16, ⟨17, nowMark⟩, ⟨18, 19⟩, ⟨20, omitMark⟩⟩ rfl
  exact (times_read_back.1 _ _ hwritten).2.mpr (by decide)

end RawTime

end HostedFs
