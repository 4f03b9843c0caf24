import HostedFs.Proofs.Time.Written

/-! # Records of POSIX

    A record of POSIX has room for all metadata that it has a field for, so nothing of it
    is clamped. The birth time and the flags of a file have no field there. The records
    for the metadata of a filesystem have room for all of it, those of WinFsp, too.

    * `PosixStat.Reports`, `reports_iff`: the record that is stored for a file.
    * `Stat.Alike`: the metadata that a record shows is the same.
    * `StatvfsRecord.figures`, `WinFspStatvfs.figures`: the metadata that a record for a
      filesystem shows.
    * `posix_stores`: the records, and what they tell apart.
-/

namespace HostedFs

/-! ## Words -/

/-- A word keeps its value where the other kind has all values of its own. -/
theorem toInt_fit_of_le {α β : Type} [Word α] [Word β]
    (hmin : (Word.kind β).min ≤ (Word.kind α).min) (hmax : (Word.kind α).max ≤ (Word.kind β).max)
    (a : α) : Word.toInt (fit a : β) = Word.toInt a := by
  obtain ⟨hlower, hupper⟩ := Word.contains_toInt a
  apply toInt_fit_of_contains
  exact ⟨Int.le_trans hmin hlower, Int.le_trans hupper hmax⟩

/-- Links are counted in a wider word. -/
theorem toNat_fit_u64 (a : UInt32) : (fit a : UInt64).toNat = a.toNat := by
  have h : ((fit a : UInt64).toNat : Int) = a.toNat :=
    toInt_fit_of_le (α := UInt32) (β := UInt64) (by decide) (by decide) a
  exact Int.ofNat.inj h

/-! ## Files -/

/-- What a record tells of the metadata of a file. -/
structure PosixStat.Reports (r : PosixStat) (s : Stat) : Prop where
  dev : r.dev.toNat = s.dev.toNat
  ino : r.ino.toNat = s.ino.toNat
  mode : r.mode.toNat = s.mode.toNat
  nlink : r.nlink.toNat = s.nlink.toNat
  uid : r.uid.toNat = s.uid.toNat
  gid : r.gid.toNat = s.gid.toNat
  rdev : r.rdev.toNat = s.rdev.toNat
  size : r.size.toInt = s.size.toInt
  blksize : r.blksize.toInt = s.blksize.toInt
  blocks : r.blocks.toInt = s.blocks.toInt
  atim : r.atim.Tells s.atim
  mtim : r.mtim.Tells s.mtim
  ctim : r.ctim.Tells s.ctim

/-- The metadata is the same but for the birth time and the flags. -/
def Stat.Alike (s s' : Stat) : Prop :=
  { s with birthtim := s'.birthtim, flags := s'.flags } = s'

namespace PosixStat

variable {r r' : PosixStat} {s s' : Stat}

theorem reports_store (d : PosixStat) (s : Stat) : (d.store s).Reports s where
  dev := congrArg UInt64.toNat (fit_self s.dev)
  ino := congrArg UInt64.toNat (fit_self s.ino)
  mode := congrArg UInt32.toNat (fit_self s.mode)
  nlink := toNat_fit_u64 s.nlink
  uid := rfl
  gid := rfl
  rdev := congrArg UInt64.toNat (fit_self s.rdev)
  size := congrArg Int64.toInt (fit_self s.size)
  blksize := congrArg Int64.toInt (fit_self s.blksize)
  blocks := congrArg Int64.toInt (fit_self s.blocks)
  atim := RawTime.tells_ofTimespec s.atim
  mtim := RawTime.tells_ofTimespec s.mtim
  ctim := RawTime.tells_ofTimespec s.ctim

/-- There is one record for the metadata of a file. -/
theorem Reports.unique (h : r.Reports s) (h' : r'.Reports s) : r = r' := by
  have hdev : r.dev = r'.dev := UInt64.toNat_inj.mp (h.dev.trans h'.dev.symm)
  have hino : r.ino = r'.ino := UInt64.toNat_inj.mp (h.ino.trans h'.ino.symm)
  have hmode : r.mode = r'.mode := UInt32.toNat_inj.mp (h.mode.trans h'.mode.symm)
  have hnlink : r.nlink = r'.nlink := UInt64.toNat_inj.mp (h.nlink.trans h'.nlink.symm)
  have huid : r.uid = r'.uid := UInt32.toNat_inj.mp (h.uid.trans h'.uid.symm)
  have hgid : r.gid = r'.gid := UInt32.toNat_inj.mp (h.gid.trans h'.gid.symm)
  have hrdev : r.rdev = r'.rdev := UInt64.toNat_inj.mp (h.rdev.trans h'.rdev.symm)
  have hsize : r.size = r'.size := Int64.toInt_inj.mp (h.size.trans h'.size.symm)
  have hblksize : r.blksize = r'.blksize := Int64.toInt_inj.mp (h.blksize.trans h'.blksize.symm)
  have hblocks : r.blocks = r'.blocks := Int64.toInt_inj.mp (h.blocks.trans h'.blocks.symm)
  have htime {x y : RawTime} {t : Timespec} (hx : x.Tells t) (hy : y.Tells t) : x = y :=
    (RawTime.tells_iff.mp hx).trans (RawTime.tells_iff.mp hy).symm
  cases r
  cases r'
  simp only [mk.injEq]
  exact ⟨hdev, hino, hmode, hnlink, huid, hgid, hrdev, hsize, hblksize, hblocks,
    htime h.atim h'.atim, htime h.mtim h'.mtim, htime h.ctim h'.ctim⟩

theorem reports_iff (d : PosixStat) : r.Reports s ↔ r = d.store s := by
  constructor
  · intro h
    exact h.unique (reports_store d s)
  · rintro rfl
    exact reports_store d s

/-- Metadata that one record tells has no difference that a record could show. -/
theorem Reports.alike (h : r.Reports s) (h' : r.Reports s') : s.Alike s' := by
  have hdev : s.dev = s'.dev := UInt64.toNat_inj.mp (h.dev.symm.trans h'.dev)
  have hino : s.ino = s'.ino := UInt64.toNat_inj.mp (h.ino.symm.trans h'.ino)
  have hmode : s.mode = s'.mode := UInt32.toNat_inj.mp (h.mode.symm.trans h'.mode)
  have hnlink : s.nlink = s'.nlink := UInt32.toNat_inj.mp (h.nlink.symm.trans h'.nlink)
  have huid : s.uid = s'.uid := UInt32.toNat_inj.mp (h.uid.symm.trans h'.uid)
  have hgid : s.gid = s'.gid := UInt32.toNat_inj.mp (h.gid.symm.trans h'.gid)
  have hrdev : s.rdev = s'.rdev := UInt64.toNat_inj.mp (h.rdev.symm.trans h'.rdev)
  have hsize : s.size = s'.size := Int64.toInt_inj.mp (h.size.symm.trans h'.size)
  have hblksize : s.blksize = s'.blksize := Int64.toInt_inj.mp (h.blksize.symm.trans h'.blksize)
  have hblocks : s.blocks = s'.blocks := Int64.toInt_inj.mp (h.blocks.symm.trans h'.blocks)
  have hatim : s.atim = s'.atim := h.atim.unique h'.atim
  have hmtim : s.mtim = s'.mtim := h.mtim.unique h'.mtim
  have hctim : s.ctim = s'.ctim := h.ctim.unique h'.ctim
  cases s
  cases s'
  simp only [Stat.Alike, Stat.mk.injEq, true_and, and_true]
  exact ⟨hdev, hino, hmode, hnlink, huid, hgid, hrdev, hsize, hatim, hmtim, hctim, hblksize,
    hblocks⟩

/-- A record shows neither the birth time nor the flags. -/
theorem store_of_alike (d d' : PosixStat) (h : s.Alike s') : d.store s = d'.store s' := by
  have hsame : d.store s = d'.store { s with birthtim := s'.birthtim, flags := s'.flags } := rfl
  exact hsame.trans (congrArg d'.store h)

theorem store_eq_iff (d d' : PosixStat) : d.store s = d'.store s' ↔ s.Alike s' := by
  constructor
  · intro h
    have htold := reports_store d s
    rw [h] at htold
    exact htold.alike (reports_store d' s')
  · exact store_of_alike d d'

end PosixStat

/-! ## Filesystems -/

/-- The metadata that a record shows. -/
def StatvfsRecord.figures (r : StatvfsRecord) : Statfs where
  bsize := r.bsize
  frsize := r.frsize
  blocks := r.blocks
  bfree := r.bfree
  bavail := r.bavail
  files := r.files
  ffree := r.ffree
  favail := r.favail
  fsid := r.fsid
  flag := r.flag
  namemax := r.namemax

theorem StatvfsRecord.figures_store (d : StatvfsRecord) (f : Statfs) : (d.store f).figures = f := by
  simp only [store, figures, fit_self]

theorem StatvfsRecord.figures_inj {r r' : StatvfsRecord} (h : r.figures = r'.figures) : r = r' := by
  cases r
  cases r'
  simpa [figures] using h

/-- The metadata that a record of WinFsp shows. -/
def WinFspStatvfs.figures (r : WinFspStatvfs) : Statfs where
  bsize := r.bsize
  frsize := r.frsize
  blocks := r.blocks
  bfree := r.bfree
  bavail := r.bavail
  files := r.files
  ffree := r.ffree
  favail := r.favail
  fsid := r.fsid
  flag := r.flag
  namemax := r.namemax

theorem WinFspStatvfs.figures_store (d : WinFspStatvfs) (f : Statfs) : (d.store f).figures = f := by
  simp only [store, figures, fit_self]

theorem WinFspStatvfs.figures_inj {r r' : WinFspStatvfs} (h : r.figures = r'.figures) : r = r' := by
  cases r
  cases r'
  simpa [figures] using h

/-- The records of POSIX for the metadata of a file and of a filesystem.

    Whatever was at its place before, the record of a file is the one that `Reports` its metadata
    field by field, exactly. So two files have the same record if and only if they are `Alike`, in
    all but the birth time and the flags. The records of a filesystem, those of WinFsp as well,
    are the ones whose `figures` are its metadata, and so they show the same. -/
theorem posix_stores (s : Stat) (d d' : PosixStat) :
    (∀ r, r = d.store s ↔ r.Reports s) ∧
    d.store s = d'.store s ∧
    (∀ s' : Stat, d.store s = d'.store s' ↔ s.Alike s') ∧
    ∀ (f : Statfs) (e : StatvfsRecord) (w : WinFspStatvfs),
      (∀ r, r = e.store f ↔ r.figures = f) ∧ (∀ r, r = w.store f ↔ r.figures = f) ∧
      (e.store f).figures = (w.store f).figures := by
  refine ⟨fun r => (PosixStat.reports_iff d).symm, rfl, fun s' => PosixStat.store_eq_iff d d', ?_⟩
  intro f e w
  have hposix := e.figures_store f
  have hwinfsp := w.figures_store f
  refine ⟨fun r => ⟨?_, ?_⟩, fun r => ⟨?_, ?_⟩, hposix.trans hwinfsp.symm⟩
  · rintro rfl
    exact hposix
  · intro h
    exact StatvfsRecord.figures_inj (h.trans hposix.symm)
  · rintro rfl
    exact hwinfsp
  · intro h
    exact WinFspStatvfs.figures_inj (h.trans hwinfsp.symm)

/-- Two files with the greatest and the least numbers that metadata can have, of which
    one was born and the other has flags, have one record. -/
example (d d' : PosixStat) :
    d.store { nlink := 4294967295, size := -9223372036854775808, birthtim := ⟨1, 2⟩ } =
      d'.store { nlink := 4294967295, size := -9223372036854775808, flags := 3 } :=
  rfl

end HostedFs
