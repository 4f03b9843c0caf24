import HostedFs.Proofs.Time.Written

/-! # Records of WinFsp

    A record of WinFsp is narrower than the metadata it is made from. What has room in it
    is kept as it is, and what has not becomes the limit of its field. The record has a
    birth time even if the metadata has none.

    * `WinFspStat.Reports`, `reports_iff`: the record that is stored for metadata.
    * `Stat.Narrow`: metadata that the record has room for.
    * `Stat.dated`: metadata whose birth time is known.
    * `winfsp_stores`: the records with flags and without, and what they tell apart.
-/

namespace HostedFs

/-! ## Words -/

/-- The greatest value of a narrower word stands for all that are greater. -/
theorem toNat_fit_u32 (a : UInt64) : (fit a : UInt32).toNat = min a.toNat 0xffffffff := by
  have h : ((fit a : UInt32).toNat : Int) = (Word.kind UInt32).clamp a.toNat :=
    toInt_fit (β := UInt32) a
  rw [IntKind.clamp_eq_max_min] at h
  change ((fit a : UInt32).toNat : Int) = max 0 (min (a.toNat : Int) 0xffffffff) at h
  omega

theorem toNat_fit_u16 (a : UInt32) : (fit a : UInt16).toNat = min a.toNat 0xffff := by
  have h : ((fit a : UInt16).toNat : Int) = (Word.kind UInt16).clamp a.toNat :=
    toInt_fit (β := UInt16) a
  rw [IntKind.clamp_eq_max_min] at h
  change ((fit a : UInt16).toNat : Int) = max 0 (min (a.toNat : Int) 0xffff) at h
  omega

theorem toInt_fit_i32 (a : Int64) :
    (fit a : Int32).toInt = max (-0x80000000) (min a.toInt 0x7fffffff) := by
  have h : (fit a : Int32).toInt = (Word.kind Int32).clamp a.toInt := toInt_fit (β := Int32) a
  rw [h, IntKind.clamp_eq_max_min]
  rfl

/-! ## Birth times -/

theorem Timespec.isZero_iff (t : Timespec) : t.isZero = true ↔ t = .zero := by
  cases t
  simp [isZero, zero]

namespace Stat

/-- The same metadata with the birth time that is reported. -/
def dated (s : Stat) : Stat :=
  { s with birthtim := if s.birthtim = .zero then s.ctim else s.birthtim }

theorem effectiveBirth_eq (s : Stat) : s.effectiveBirth = s.dated.birthtim := by
  unfold effectiveBirth dated
  by_cases h : s.birthtim = .zero
  · rw [if_pos (s.birthtim.isZero_iff.mpr h)]
    exact (if_pos h).symm
  · rw [if_neg (mt s.birthtim.isZero_iff.mp h)]
    exact (if_neg h).symm

end Stat

/-! ## Records -/

/-- What a record tells of the metadata of a file. -/
structure WinFspStat.Reports (r : WinFspStat) (s : Stat) : Prop where
  dev : r.dev.toNat = min s.dev.toNat 0xffffffff
  ino : r.ino = s.ino
  mode : r.mode = s.mode
  nlink : r.nlink.toNat = min s.nlink.toNat 0xffff
  uid : r.uid = s.uid
  gid : r.gid = s.gid
  rdev : r.rdev.toNat = min s.rdev.toNat 0xffffffff
  size : r.size = s.size
  atim : r.atim.Tells s.atim
  mtim : r.mtim.Tells s.mtim
  ctim : r.ctim.Tells s.ctim
  blksize : r.blksize.toInt = max (-0x80000000) (min s.blksize.toInt 0x7fffffff)
  blocks : r.blocks = s.blocks
  /-- The change time stands in for a birth time that is not known. -/
  birthtim : r.birthtim.Tells (if s.birthtim = .zero then s.ctim else s.birthtim)

namespace WinFspStat

variable {r : WinFspStat} {s s' : Stat}

theorem reports_store (d : WinFspStat) (s : Stat) : (d.store s).Reports s where
  dev := toNat_fit_u32 s.dev
  ino := rfl
  mode := rfl
  nlink := toNat_fit_u16 s.nlink
  uid := rfl
  gid := rfl
  rdev := toNat_fit_u32 s.rdev
  size := rfl
  atim := RawTime.tells_ofTimespec s.atim
  mtim := RawTime.tells_ofTimespec s.mtim
  ctim := RawTime.tells_ofTimespec s.ctim
  blksize := toInt_fit_i32 s.blksize
  blocks := rfl
  birthtim := by
    show (RawTime.ofTimespec s.effectiveBirth).Tells s.dated.birthtim
    rw [s.effectiveBirth_eq]
    exact RawTime.tells_ofTimespec _

/-- There is one record for the metadata of a file. -/
theorem Reports.unique {r' : WinFspStat} (h : r.Reports s) (h' : r'.Reports s) : r = r' := by
  have hdev : r.dev = r'.dev := UInt32.toNat_inj.mp (h.dev.trans h'.dev.symm)
  have hnlink : r.nlink = r'.nlink := UInt16.toNat_inj.mp (h.nlink.trans h'.nlink.symm)
  have hrdev : r.rdev = r'.rdev := UInt32.toNat_inj.mp (h.rdev.trans h'.rdev.symm)
  have hblksize : r.blksize = r'.blksize := Int32.toInt_inj.mp (h.blksize.trans h'.blksize.symm)
  have htime {x y : RawTime} {t : Timespec} (hx : x.Tells t) (hy : y.Tells t) : x = y :=
    (RawTime.tells_iff.mp hx).trans (RawTime.tells_iff.mp hy).symm
  cases r
  cases r'
  simp only [mk.injEq]
  exact ⟨hdev, h.ino.trans h'.ino.symm, h.mode.trans h'.mode.symm, hnlink,
    h.uid.trans h'.uid.symm, h.gid.trans h'.gid.symm, hrdev, h.size.trans h'.size.symm,
    htime h.atim h'.atim, htime h.mtim h'.mtim, htime h.ctim h'.ctim, hblksize,
    h.blocks.trans h'.blocks.symm, htime h.birthtim h'.birthtim⟩

theorem reports_iff (d : WinFspStat) : r.Reports s ↔ r = d.store s := by
  constructor
  · intro h
    exact h.unique (reports_store d s)
  · rintro rfl
    exact reports_store d s

end WinFspStat

/-! ## What records tell apart -/

/-- The narrow fields of a record have room for the metadata. -/
structure Stat.Narrow (s : Stat) : Prop where
  dev : s.dev.toNat < 0x100000000
  nlink : s.nlink.toNat < 0x10000
  rdev : s.rdev.toNat < 0x100000000
  blksize : -0x80000000 ≤ s.blksize.toInt ∧ s.blksize.toInt < 0x80000000

namespace WinFspStat

variable {r : WinFspStat} {s s' : Stat}

/-- All that a record does not tell of narrow metadata is the flags. -/
theorem Reports.dated_eq (h : r.Reports s) (h' : r.Reports s') (hs : s.Narrow) (hs' : s'.Narrow)
    (hflags : s.flags = s'.flags) : s.dated = s'.dated := by
  -- The four fields that are clamped have room for narrow metadata; all others are exact.
  have hdev : s.dev = s'.dev := by
    have hsame := h.dev.symm.trans h'.dev
    have hroom := hs.dev
    have hroom' := hs'.dev
    apply UInt64.toNat_inj.mp
    omega
  have hnlink : s.nlink = s'.nlink := by
    have hsame := h.nlink.symm.trans h'.nlink
    have hroom := hs.nlink
    have hroom' := hs'.nlink
    apply UInt32.toNat_inj.mp
    omega
  have hrdev : s.rdev = s'.rdev := by
    have hsame := h.rdev.symm.trans h'.rdev
    have hroom := hs.rdev
    have hroom' := hs'.rdev
    apply UInt64.toNat_inj.mp
    omega
  have hblksize : s.blksize = s'.blksize := by
    have hsame := h.blksize.symm.trans h'.blksize
    have hroom := hs.blksize
    have hroom' := hs'.blksize
    apply Int64.toInt_inj.mp
    omega
  simp only [Stat.dated, Stat.mk.injEq]
  exact ⟨hdev, h.ino.symm.trans h'.ino, h.mode.symm.trans h'.mode, hnlink,
    h.uid.symm.trans h'.uid, h.gid.symm.trans h'.gid, hrdev, h.size.symm.trans h'.size,
    h.atim.unique h'.atim, h.mtim.unique h'.mtim, h.ctim.unique h'.ctim,
    h.birthtim.unique h'.birthtim, hblksize, h.blocks.symm.trans h'.blocks, hflags⟩

/-- A record does not depend on how its birth time was found. -/
theorem store_congr (d d' : WinFspStat) (h : s.dated = s'.dated) : d.store s = d'.store s' := by
  have hbirth : s.effectiveBirth = s'.effectiveBirth := by
    rw [s.effectiveBirth_eq, s'.effectiveBirth_eq, h]
  simp only [Stat.dated, Stat.mk.injEq] at h
  obtain ⟨hdev, hino, hmode, hnlink, huid, hgid, hrdev, hsize, hatim, hmtim, hctim, -, hblksize,
    hblocks, -⟩ := h
  simp only [store, hdev, hino, hmode, hnlink, huid, hgid, hrdev, hsize, hatim, hmtim, hctim,
    hblksize, hblocks, hbirth]

end WinFspStat

/-- The records of WinFsp for the metadata of a file.

    Whatever was at its place before, the record that is stored is the one that `Reports` the
    metadata field by field: `dev`, `rdev`, `nlink` and `blksize` become the limits of their
    fields where they exceed them, and all else is exact. The record with flags has it as its
    base, the flags as they are, and zeros. So two files whose metadata is `Narrow` have the same
    record with flags if and only if they agree once they are `dated`, the change time standing in
    for an unknown birth time. -/
theorem winfsp_stores (s : Stat) (d d' : WinFspStat) (e e' : WinFspStatEx) :
    (∀ r, r = d.store s ↔ r.Reports s) ∧
    (∀ r : WinFspStatEx, r = e.store s ↔
      r.base = d.store s ∧ r.flags = s.flags ∧ r.reserved32 = (0, 0, 0) ∧ r.reserved64 = (0, 0)) ∧
    (d.store s = d'.store s ∧ e.store s = e'.store s) ∧
    ∀ s' : Stat, s.Narrow → s'.Narrow → (e.store s = e'.store s' ↔ s.dated = s'.dated) := by
  refine ⟨fun r => (WinFspStat.reports_iff d).symm, fun r => ?_, ⟨rfl, rfl⟩, ?_⟩
  · constructor
    · rintro rfl
      exact ⟨rfl, rfl, rfl, rfl⟩
    · intro h
      obtain ⟨hbase, hflags, h32, h64⟩ := h
      cases r
      simp only [WinFspStatEx.store, WinFspStatEx.mk.injEq]
      exact ⟨hbase, hflags, h32, h64⟩
  · intro s' hs hs'
    constructor
    · intro h
      -- What the base tells both agree in, so that only the flags are left.
      have hbase : d.store s = d.store s' := congrArg WinFspStatEx.base h
      have hflags : s.flags = s'.flags := congrArg WinFspStatEx.flags h
      have hreports := d.reports_store s
      rw [hbase] at hreports
      exact hreports.dated_eq (WinFspStat.reports_store d s') hs hs' hflags
    · intro h
      have hbase : e.base.store s = e'.base.store s' := WinFspStat.store_congr _ _ h
      have hflags : s.dated.flags = s'.dated.flags := congrArg Stat.flags h
      change s.flags = s'.flags at hflags
      simp only [WinFspStatEx.store, hbase, hflags]

/-- A file without a birth time whose links and block size are as many and as small as a
    record has room for. -/
def unborn : Stat :=
  { nlink := 65535, ctim := ⟨-1, 5⟩, blksize := -2147483648 }

/-- A record that was in use before. -/
def inUse : WinFspStatEx :=
  ⟨⟨1, 2, 3, 4, 5, 6, 7, 8, ⟨9, 10⟩, ⟨11, 12⟩, ⟨13, 14⟩, 15, 16, ⟨17, 18⟩⟩, 19, (20, 21, 22),
    (23, 24)⟩

/-- It looks like a file that was born when it was changed, and like no other. -/
theorem winfsp_stores_unborn :
    inUse.store unborn = inUse.store { unborn with birthtim := ⟨-1, 5⟩ } ∧
      inUse.store unborn ≠ inUse.store { unborn with birthtim := ⟨-1, 6⟩ } := by
  have hnarrow : unborn.Narrow := ⟨by decide, by decide, by decide, by decide⟩
  have htell (birth : Timespec) := (winfsp_stores unborn inUse.base inUse.base inUse inUse).2.2.2
    { unborn with birthtim := birth } hnarrow
    ⟨hnarrow.dev, hnarrow.nlink, hnarrow.rdev, hnarrow.blksize⟩
  constructor
  · exact (htell _).mpr rfl
  · exact mt (htell _).mp (by decide)

end HostedFs
