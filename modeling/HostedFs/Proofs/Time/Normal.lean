import HostedFs.Data.Codec
import HostedFs.Proofs.Data.Fields
import HostedFs.Time.Instant
import HostedFs.Time.Native

/-! # Normal time stamps

    The nanoseconds of a time stamp are meant to be less than a second. Every stamp that
    is made from parts, of the clock or of the native side is so. One that is read from a
    document is what the document says, in whatever way the format is read.

    * `isNormal_ofParts`: seconds and nanoseconds are made a normal stamp.
    * `Carried`, `carried_iff`: the stamp that they are made.
    * `Origin`, `Origin.stamp?`: where a stamp comes from.
    * `Origin.States`: what a document says of its nanoseconds.
    * `Origin.isNormal_iff`: a stamp is normal unless a document states a second or more.
-/

namespace HostedFs

/-- The time that is to be set, if one is. -/
def TimeUpdate.stamp? : TimeUpdate → Option Timespec
  | .now | .omit => none
  | .set t => some t

namespace Timespec

/-! ## Stamps that are made -/

/-- The nanoseconds beyond the whole seconds among them, counted toward the past. -/
theorem toNat_nsec_ofParts (sec nsec : Int64) :
    ((ofParts sec nsec).nsec.toNat : Int) = nsec.toInt % perSecond := by
  have hnonneg : 0 ≤ nsec.toInt % 1000000000 := Int.emod_nonneg _ (by decide)
  have hless : nsec.toInt % 1000000000 < 1000000000 := Int.emod_lt_of_pos _ (by decide)
  show ((UInt32.ofNat (nsec.toInt % 1000000000).toNat).toNat : Int) = nsec.toInt % 1000000000
  have hfits : (nsec.toInt % 1000000000).toNat < UInt32.size := by
    rw [UInt32.size]
    omega
  rw [UInt32.toNat_ofNat_of_lt' hfits]
  omega

/-- Surplus nanoseconds are carried, so what is left of them is less than a second. -/
theorem isNormal_ofParts (sec nsec : Int64) : (ofParts sec nsec).IsNormal := by
  rw [IsNormal, toNat_nsec_ofParts]
  exact Int.emod_lt_of_pos _ (by decide)

/-- A stamp is what seconds and nanoseconds come to. It is normal, whole seconds among the
    nanoseconds are carried, and the seconds stop at the limits of their type. -/
structure Carried (sec nsec : Int64) (t : Timespec) : Prop where
  normal : t.IsNormal
  carry : ∃ seconds : Int, nsec.toInt = seconds * perSecond + t.nsec.toNat ∧
    t.sec.toInt = (Word.kind Int64).clamp (sec.toInt + seconds)

theorem carried_ofParts (sec nsec : Int64) : Carried sec nsec (ofParts sec nsec) where
  normal := isNormal_ofParts sec nsec
  carry := by
    refine ⟨nsec.toInt / perSecond, ?_, ?_⟩
    · rw [toNat_nsec_ofParts, Int.mul_comm, Int.mul_ediv_add_emod]
    · exact Word.toInt_ofInt (α := Int64) _ (IntKind.contains_clamp _ _)

/-- They come to one stamp only. -/
theorem Carried.unique {sec nsec : Int64} {t t' : Timespec} (h : Carried sec nsec t)
    (h' : Carried sec nsec t') : t = t' := by
  obtain ⟨seconds, hsplit, hsec⟩ := h.carry
  obtain ⟨seconds', hsplit', hsec'⟩ := h'.carry
  have hless : (t.nsec.toNat : Int) < 1000000000 := h.normal
  have hless' : (t'.nsec.toNat : Int) < 1000000000 := h'.normal
  rw [perSecond] at hsplit hsplit'
  have hnsec : t.nsec.toNat = t'.nsec.toNat := by omega
  obtain rfl : seconds = seconds' := by omega
  cases t
  cases t'
  congr 1
  · exact Int64.toInt_inj.mp (hsec.trans hsec'.symm)
  · exact UInt32.toNat_inj.mp hnsec

theorem carried_iff {sec nsec : Int64} {t : Timespec} :
    Carried sec nsec t ↔ t = ofParts sec nsec := by
  constructor
  · intro h
    exact h.unique (carried_ofParts sec nsec)
  · rintro rfl
    exact carried_ofParts sec nsec

theorem isNormal_zero : zero.IsNormal := by
  decide

/-- The stamp of an instant is made from its distance to the epoch. -/
theorem isNormal_toTimespec (i : Instant) : i.toTimespec.IsNormal := by
  unfold Instant.toTimespec
  split
  · exact isNormal_ofParts _ _
  · exact isNormal_ofParts _ _

/-- A time that is to be set is made from a pair of the native side. -/
theorem isNormal_of_toUpdate {r : RawTime} {t : Timespec} (h : r.toUpdate.stamp? = some t) :
    t.IsNormal := by
  unfold RawTime.toUpdate at h
  split at h
  next => cases h
  next =>
    split at h
    next => cases h
    next =>
      cases h
      exact isNormal_ofParts r.sec r.nsec

/-! ## Origins -/

/-- The formats of documents. -/
inductive Format
  | json
  | toml

namespace Format

/-- What a document says, as `Json.codec` and `Toml.codec` read it. -/
def parse? : Format → String → Option Tree
  | json => Json.codec.parse?
  | toml => Toml.codec.parse?

/-- Only one of the formats minds items that a list has too many. -/
def strictness : Format → Tree.Strictness
  | json => ⟨false⟩
  | toml => ⟨true⟩

end Format

/-- Where a time stamp comes from. -/
inductive Origin
  | zero
  | unset
  | parts (sec nsec : Int64)
  | clock (i : Instant)
  | native (r : RawTime)
  /-- A time that is to be set. -/
  | update (r : RawTime)
  /-- A document that spells a stamp. -/
  | document (format : Format) (text : String)
  /-- A document that spells the metadata of a file. -/
  | metadata (format : Format) (text : String) (stamp : Stat.Stamp)

namespace Origin

-- What a library for each format reads from a document.
variable (reader : Format → String → Option Tree)

/-- The stamp that comes from there, if one does. -/
def stamp? : Origin → Option Timespec
  | zero => some .zero
  | unset => some default
  | parts sec nsec => some (ofParts sec nsec)
  | clock i => some i.toTimespec
  | native r => some r.toTimespec
  | update r => r.toUpdate.stamp?
  | document format text => (reader format text).bind (ofTree? format.strictness)
  | metadata format text stamp =>
    ((reader format text).bind (Stat.ofTree? format.strictness)).map stamp.of

/-- A document states the nanoseconds of the stamp. -/
inductive States : Origin → Int → Prop
  | document {format : Format} {text : String} {tree : Tree} {n : Int}
      (written : reader format text = some tree) (gives : tree.Gives fieldNames "nsec" (.int n)) :
      States (.document format text) n
  | metadata {format : Format} {text : String} {stamp : Stat.Stamp} {tree part : Tree} {n : Int}
      (written : reader format text = some tree)
      (gives_part : tree.Gives Stat.fieldNames stamp.name part)
      (gives : part.Gives fieldNames "nsec" (.int n)) : States (.metadata format text stamp) n

variable {reader} {o : Origin} {t : Timespec}

/-- A document that spells a stamp states its nanoseconds and no others. -/
theorem states_document_iff {format : Format} {text : String}
    (h : (document format text).stamp? reader = some t) (n : Int) :
    (document format text).States reader n ↔ n = t.nsec.toNat := by
  obtain ⟨tree, hparse, hread⟩ := Option.bind_eq_some_iff.mp h
  have hgives := gives_nsec_iff hread (.int n)
  constructor
  · intro hstates
    cases hstates with
    | document written gives =>
      obtain rfl := Option.some.inj (hparse.symm.trans written)
      exact Tree.int.inj (hgives.mp gives)
  · rintro rfl
    exact .document hparse (hgives.mpr rfl)

/-- So does one that spells the metadata of a file. -/
theorem states_metadata_iff {format : Format} {text : String} {stamp : Stat.Stamp}
    (h : (metadata format text stamp).stamp? reader = some t) (n : Int) :
    (metadata format text stamp).States reader n ↔ n = t.nsec.toNat := by
  obtain ⟨s, hmetadata, rfl⟩ := Option.map_eq_some_iff.mp h
  obtain ⟨tree, hparse, hread⟩ := Option.bind_eq_some_iff.mp hmetadata
  obtain ⟨part, hpart, hgives_part⟩ := Stat.stamp_of_ofTree? hread stamp
  have hgives := gives_nsec_iff hpart (.int n)
  constructor
  · intro hstates
    cases hstates with
    | metadata written gives_part gives =>
      obtain rfl := Option.some.inj (hparse.symm.trans written)
      obtain rfl := (hgives_part _).mp gives_part
      exact Tree.int.inj (hgives.mp gives)
  · rintro rfl
    exact .metadata hparse ((hgives_part part).mpr rfl) (hgives.mpr rfl)

/-- Where no document states nanoseconds, the stamp is made to be normal. -/
theorem isNormal_or_states (h : o.stamp? reader = some t) :
    (t.IsNormal ∧ ∀ n, ¬ o.States reader n) ∨ ∀ n, o.States reader n ↔ n = t.nsec.toNat := by
  cases o with
  | document format text => exact .inr (states_document_iff h)
  | metadata format text stamp => exact .inr (states_metadata_iff h)
  | zero | unset =>
    cases h
    exact .inl ⟨isNormal_zero, fun n hstates => by cases hstates⟩
  | parts sec nsec =>
    cases h
    exact .inl ⟨isNormal_ofParts sec nsec, fun n hstates => by cases hstates⟩
  | clock i =>
    cases h
    exact .inl ⟨isNormal_toTimespec i, fun n hstates => by cases hstates⟩
  | native r =>
    cases h
    exact .inl ⟨isNormal_ofParts r.sec r.nsec, fun n hstates => by cases hstates⟩
  | update r => exact .inl ⟨isNormal_of_toUpdate h, fun n hstates => by cases hstates⟩

/-- The nanoseconds of a time stamp.

    A stamp that is made from seconds and nanoseconds, from an instant of the clock or from a pair
    of the native side `IsNormal` whatever these are, and so is one that is not set. A stamp that
    is read from a document, by itself or as a time of a file, has just the nanoseconds that the
    document `States` to its `reader`. So it is normal unless these are a second or more. -/
theorem isNormal_iff (h : o.stamp? reader = some t) :
    (t.IsNormal ↔ ∀ n, o.States reader n → n < perSecond) ∧
      ∀ n, o.States reader n → n = t.nsec.toNat := by
  rcases isNormal_or_states h with ⟨hnormal, hnone⟩ | hstates
  · refine ⟨⟨fun _ n hn => absurd hn (hnone n), fun _ => hnormal⟩, fun n hn => ?_⟩
    exact absurd hn (hnone n)
  · refine ⟨⟨fun hnormal n hn => ?_, fun hall => ?_⟩, fun n hn => (hstates n).mp hn⟩
    · rw [(hstates n).mp hn]
      exact hnormal
    · exact hall _ ((hstates _).mpr rfl)

/-- A file that was changed a nanosecond before the first second was over. -/
def almost : Origin :=
  .metadata .json "[0,0,0,0,0,0,0,0,[0,0],[0,999999999],[0,0],[0,0],0,0,0]" .mtim

/-- The most that a normal stamp has is read as it is. -/
theorem isNormal_iff_almost :
    almost.stamp? Format.parse? = some ⟨0, 999999999⟩ ∧
      ∀ n, almost.States Format.parse? n → n = 999999999 := by
  have hstamp : almost.stamp? Format.parse? = some ⟨0, 999999999⟩ := by
    decide +kernel
  exact ⟨hstamp, (isNormal_iff hstamp).2⟩

/-- A document can state a whole second of nanoseconds, and it is not carried. -/
theorem not_isNormal_document :
    (document .json "\x7b\"sec\":0,\"nsec\":1000000000\x7d").stamp? Format.parse? =
        some ⟨0, 1000000000⟩ ∧
      ¬ (⟨0, 1000000000⟩ : Timespec).IsNormal := by
  refine ⟨?_, by decide⟩
  decide +kernel

end Origin

end Timespec

end HostedFs
