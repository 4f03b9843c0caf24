import HostedFs.Proofs.Time.Clock
import HostedFs.Proofs.Word.Nearest

/-! # The order of time stamps

    Seconds and nanoseconds tell a time, whatever their signs and sizes: their total. The
    stamp that they are made has that total if the seconds have room for it, and no step on
    the way overflows. Normal stamps are ordered by their totals, so stamps are compared and
    sorted as times are.

    * `stepwise?`, `stepwise?_eq`: a stamp is made by operations on words, none of which
      overflows.
    * `Fits`, `total_ofParts`: the parts whose total the stamp has.
    * `compare_eq`: normal stamps are compared by their totals.
    * `ofParts_ordered`: the stamps that parts are made, and their order.
-/

namespace HostedFs

/-- The integer as a word, unless it overflows. -/
def Word.ofInt? {α : Type} [Word α] (n : Int) : Option α :=
  if (Word.kind α).Contains n then some (Word.ofInt n) else none

theorem Word.ofInt?_of_contains {α : Type} [Word α] {n : Int} (h : (Word.kind α).Contains n) :
    Word.ofInt? n = some (Word.ofInt n : α) :=
  if_pos h

namespace Timespec

/-! ## Parts -/

/-- The time that seconds and nanoseconds tell, in nanoseconds since the epoch. -/
def partsTotal (sec nsec : Int64) : Int :=
  sec.toInt * perSecond + nsec.toInt

/-- The seconds have room for the whole seconds among the nanoseconds. -/
def Fits (sec nsec : Int64) : Prop :=
  (Word.kind Int64).Contains (sec.toInt + nsec.toInt / perSecond)

instance (sec nsec : Int64) : Decidable (Fits sec nsec) :=
  inferInstanceAs (Decidable (IntKind.Contains _ _))

/-- The sum of words, or the limit that it is beyond. -/
def addUpTo (a b : Int64) : Int64 :=
  Word.ofInt ((Word.kind Int64).clamp (a.toInt + b.toInt))

/-- The stamp of seconds and nanoseconds where every step gives a word, unless one
    overflows. -/
def stepwise? (sec nsec : Int64) : Option Timespec := do
  let carry : Int64 ← Word.ofInt? (nsec.toInt / perSecond)
  let left : Int64 ← Word.ofInt? (nsec.toInt % perSecond)
  let nsec : UInt32 ← Word.ofInt? left.toInt
  return ⟨addUpTo sec carry, nsec⟩

/-- A quotient by a second is a word, and what is left of it is even one of 32 bits. -/
theorem stepwise?_eq (sec nsec : Int64) : stepwise? sec nsec = some (ofParts sec nsec) := by
  have hlow := nsec.le_toInt
  have hhigh := nsec.toInt_lt
  -- The carry, the remainder and the nanoseconds all fit into their words.
  have hcarry : (Word.kind Int64).Contains (nsec.toInt / perSecond) := by
    apply (IntKind.contains_signed .w64 _).mpr
    rw [Width.half, perSecond]
    omega
  have hleft : (Word.kind Int64).Contains (nsec.toInt % perSecond) := by
    apply (IntKind.contains_signed .w64 _).mpr
    rw [Width.half, perSecond]
    omega
  have hnsec : (Word.kind UInt32).Contains (nsec.toInt % perSecond) := by
    apply (IntKind.contains_unsigned .w32 _).mpr
    rw [Width.half, perSecond]
    omega
  have hcarry' : (Word.ofInt (nsec.toInt / perSecond) : Int64).toInt = nsec.toInt / perSecond :=
    Word.toInt_ofInt (α := Int64) _ hcarry
  have hleft' : (Word.ofInt (nsec.toInt % perSecond) : Int64).toInt = nsec.toInt % perSecond :=
    Word.toInt_ofInt (α := Int64) _ hleft
  have hsame : (Word.ofInt (nsec.toInt % perSecond) : UInt32) = (ofParts sec nsec).nsec := by
    apply UInt32.toNat_inj.mp
    apply Int.ofNat.inj
    exact (Word.toInt_ofInt (α := UInt32) _ hnsec).trans (toNat_nsec_ofParts sec nsec).symm
  simp only [stepwise?, Word.ofInt?_of_contains hcarry, Word.ofInt?_of_contains hleft, hleft',
    Word.ofInt?_of_contains hnsec, Option.bind_eq_bind, Option.bind_some, hsame, addUpTo, hcarry']
  rfl

theorem toInt_sec_ofParts (sec nsec : Int64) :
    (ofParts sec nsec).sec.toInt =
      (Word.kind Int64).clamp (sec.toInt + nsec.toInt / perSecond) :=
  Word.toInt_ofInt (α := Int64) _ (IntKind.contains_clamp _ _)

/-- Where they have room for it, nothing is lost. -/
theorem total_ofParts {sec nsec : Int64} (h : Fits sec nsec) :
    (ofParts sec nsec).total = partsTotal sec nsec := by
  have hsec := toInt_sec_ofParts sec nsec
  rw [IntKind.clamp_of_contains h] at hsec
  rw [total, hsec, toNat_nsec_ofParts, partsTotal, perSecond]
  omega

/-! ## Order -/

/-- Normal stamps are compared by their totals: nanoseconds never make up for a second. -/
theorem compare_eq {a b : Timespec} (ha : a.IsNormal) (hb : b.IsNormal) :
    compare a b = Ord.compare a.total b.total := by
  rw [IsNormal, perSecond] at ha hb
  rw [compare, total, total, perSecond]
  rcases Int.lt_trichotomy a.sec.toInt b.sec.toInt with hsec | hsec | hsec
  · rw [Int.compare_eq_lt.mpr hsec, Int.compare_eq_lt.mpr (by omega)]
    rfl
  · have hlt : b.sec.toInt * 1000000000 + a.nsec.toNat < b.sec.toInt * 1000000000 + b.nsec.toNat ↔
        a.nsec.toNat < b.nsec.toNat := by omega
    have hgt : b.sec.toInt * 1000000000 + b.nsec.toNat < b.sec.toInt * 1000000000 + a.nsec.toNat ↔
        b.nsec.toNat < a.nsec.toNat := by omega
    have hsame : Ord.compare b.sec.toInt b.sec.toInt = .eq := Int.compare_eq_eq.mpr rfl
    rw [hsec, hsame, Int.compare_eq_ite_lt, Nat.compare_eq_ite_lt]
    simp only [hlt, hgt]
    rfl
  · rw [Int.compare_eq_gt.mpr hsec, Int.compare_eq_gt.mpr (by omega)]
    rfl

/-- Where the seconds have room, parts are compared by the times that they tell. -/
theorem compare_ofParts {sec nsec sec' nsec' : Int64} (h : Fits sec nsec) (h' : Fits sec' nsec') :
    compare (ofParts sec nsec) (ofParts sec' nsec') =
      Ord.compare (partsTotal sec nsec) (partsTotal sec' nsec') := by
  rw [compare_eq (isNormal_ofParts sec nsec) (isNormal_ofParts sec' nsec'), total_ofParts h,
    total_ofParts h']

/-- They make one stamp if and only if they tell one time. -/
theorem ofParts_eq_iff {sec nsec sec' nsec' : Int64} (h : Fits sec nsec) (h' : Fits sec' nsec') :
    ofParts sec nsec = ofParts sec' nsec' ↔ partsTotal sec nsec = partsTotal sec' nsec' := by
  constructor
  · intro hsame
    rw [← total_ofParts h, hsame, total_ofParts h']
  · exact ofParts_congr

/-- To sort the stamps is to sort the times, and parts that tell one time keep their
    order. -/
theorem sort_map_ofParts {parts : List (Int64 × Int64)} (h : ∀ p ∈ parts, Fits p.1 p.2) :
    sort (parts.map fun p => ofParts p.1 p.2) =
      (parts.mergeSort fun p q => partsTotal p.1 p.2 ≤ partsTotal q.1 q.2).map
        fun p => ofParts p.1 p.2 := by
  refine (List.map_mergeSort fun p hp q hq => ?_).symm
  rw [compare_ofParts (h p hp) (h q hq), Bool.eq_iff_iff, decide_eq_true_iff, Int.isLE_compare]

/-- Beyond the past or the future the seconds stop at the limit that is there. -/
theorem sec_of_not_fits (sec nsec : Int64) :
    (sec.toInt + nsec.toInt / perSecond < Int64.minValue.toInt →
        (ofParts sec nsec).sec = Int64.minValue) ∧
      (Int64.maxValue.toInt < sec.toInt + nsec.toInt / perSecond →
        (ofParts sec nsec).sec = Int64.maxValue) := by
  have hsec := toInt_sec_ofParts sec nsec
  constructor
  · intro h
    apply Int64.toInt_inj.mp
    rw [hsec]
    exact IntKind.clamp_of_lt_min (k := Word.kind Int64) h
  · intro h
    apply Int64.toInt_inj.mp
    rw [hsec]
    exact IntKind.clamp_of_max_lt (k := Word.kind Int64) h

/-- The stamps that `ofParts` makes of seconds and nanoseconds, and their order.

    Whatever the two are, no step overflows (`stepwise?`), and the nanoseconds of the stamp are
    those beyond the whole seconds, counted toward the past. Where the whole seconds fit (`Fits`),
    the stamp has the `partsTotal`; else its seconds are the limit that they would be beyond.
    Stamps of parts that fit are compared as their totals are. So they are the same just where
    these are, and in the order of stamps they are sorted by time. -/
theorem ofParts_ordered :
    (∀ sec nsec : Int64,
      stepwise? sec nsec = some (ofParts sec nsec) ∧
      ((ofParts sec nsec).nsec.toNat : Int) < perSecond ∧
      ((ofParts sec nsec).nsec.toNat : Int) % perSecond = nsec.toInt % perSecond ∧
      (Fits sec nsec → (ofParts sec nsec).total = partsTotal sec nsec) ∧
      (sec.toInt + nsec.toInt / perSecond < Int64.minValue.toInt →
        (ofParts sec nsec).sec = Int64.minValue) ∧
      (Int64.maxValue.toInt < sec.toInt + nsec.toInt / perSecond →
        (ofParts sec nsec).sec = Int64.maxValue)) ∧
    (∀ sec nsec sec' nsec' : Int64, Fits sec nsec → Fits sec' nsec' →
      Ord.compare (ofParts sec nsec) (ofParts sec' nsec') =
        Ord.compare (partsTotal sec nsec) (partsTotal sec' nsec') ∧
      (ofParts sec nsec = ofParts sec' nsec' ↔ partsTotal sec nsec = partsTotal sec' nsec')) ∧
    ∀ parts : List (Int64 × Int64), (∀ p ∈ parts, Fits p.1 p.2) →
      sort (parts.map fun p => ofParts p.1 p.2) =
        (parts.mergeSort fun p q => partsTotal p.1 p.2 ≤ partsTotal q.1 q.2).map
          fun p => ofParts p.1 p.2 := by
  refine ⟨?_, ?_, fun parts => sort_map_ofParts⟩
  · intro sec nsec
    obtain ⟨hpast, hfuture⟩ := sec_of_not_fits sec nsec
    refine ⟨stepwise?_eq sec nsec, isNormal_ofParts sec nsec, ?_, total_ofParts, hpast, hfuture⟩
    rw [toNat_nsec_ofParts, Int.emod_emod]
  · intro sec nsec sec' nsec' h h'
    exact ⟨compare_ofParts h h', ofParts_eq_iff h h'⟩

/-- The last nanosecond before the epoch, written in two ways, comes before the end of the
    last second that can be counted. One more second does not fit. -/
theorem ofParts_ordered_limits :
    ofParts 0 (-1) = ofParts (-1) 999999999 ∧
      Ord.compare (ofParts 0 (-1)) (ofParts 9223372036854775807 999999999) = .lt ∧
      sort [ofParts 9223372036854775807 999999999, ofParts 0 (-1)] =
        [⟨-1, 999999999⟩, ⟨9223372036854775807, 999999999⟩] ∧
      (ofParts 9223372036854775807 1000000000).sec = 9223372036854775807 := by
  have hordered := ofParts_ordered
  have hlast : Fits 9223372036854775807 999999999 := by decide
  have hbefore : Fits 0 (-1) := by decide
  have hfits : ∀ p ∈ [((9223372036854775807 : Int64), (999999999 : Int64)), (0, -1)],
      Fits p.1 p.2 := List.forall_mem_cons.mpr ⟨hlast, List.forall_mem_singleton.mpr hbefore⟩
  have hlater : ¬ partsTotal 9223372036854775807 999999999 ≤ partsTotal 0 (-1) := by decide
  refine ⟨(hordered.2.1 0 (-1) (-1) 999999999 hbefore (by decide)).2.mpr (by decide), ?_, ?_, ?_⟩
  · exact (hordered.2.1 _ _ _ _ hbefore hlast).1.trans (by decide)
  · refine (hordered.2.2 _ hfits).trans ?_
    have hsorted : ofParts 0 (-1) = ⟨-1, 999999999⟩ ∧
        ofParts 9223372036854775807 999999999 = ⟨9223372036854775807, 999999999⟩ := by decide
    simp [List.mergeSort, List.MergeSort.Internal.splitInTwo, hlater, hsorted]
  · exact (hordered.1 9223372036854775807 1000000000).2.2.2.2.2 (by decide)

end Timespec

end HostedFs
