import HostedFs.Probe.FileSystem
import HostedFs.Proofs.Request.Packing
import HostedFs.Proofs.Request.Arguments
import Mathlib.Data.Nat.Find

/-! # Reading the file of the probe

    A read at an offset gets the part of the file that is there, as far as the buffer has
    room, and leaves the rest of the buffer alone. So whoever reads on from where the last
    read ended, into whatever buffers, gets the whole file and then nothing more.

    * `IsPart`: the part of a file that a read is to get.
    * `serve_read_of_nonneg`, `serve_read_of_neg`: what a read comes to.
    * `readOn`: reads one after the other, until one gets nothing.
    * `readOn_step`, `readOn_from`: one of them, and all that are made from an offset.
    * `serve_readme`: all of this together, and the size that is told beforehand.
-/

namespace HostedFs.Probe

/-! ## Parts -/

/-- The bytes are those of a file from an offset on, or from its end if it ends before.
    There are no more of them than a size, and else as many as the file has. -/
structure IsPart (part whole : List UInt8) (offset size : Nat) : Prop where
  length_eq : part.length = min size (whole.length - min offset whole.length)
  byte_eq : ∀ i < part.length, part[i]? = whole[min offset whole.length + i]?

theorem length_slice (size offset : Nat) :
    (slice size offset).length = min size (readme.length - min offset readme.length) := by
  rw [slice, List.length_take, List.length_drop]

theorem isPart_slice (size offset : Nat) : IsPart (slice size offset) readme offset size where
  length_eq := length_slice size offset
  byte_eq i hi := by
    rw [length_slice] at hi
    rw [slice, List.getElem?_take_of_lt (by omega), List.getElem?_drop]

theorem length_slice_le (size offset : Nat) : (slice size offset).length ≤ size := by
  rw [length_slice]
  exact Nat.min_le_left ..

theorem length_readme : readme.length = 26 := by
  decide

theorem length_slice_le_readme (size offset : Nat) : (slice size offset).length ≤ 26 := by
  rw [length_slice, length_readme]
  omega

/-! ## Requests -/

section Requests

variable {srv : Server Timespec} {path : NativeText}

theorem decode_read (hpath : path.Spells readmePath) (buffer : Buffer) (offset : Int64)
    (info : Option FileInfo) :
    (Request.read path buffer offset info).decode =
      .ok (.read readmePath buffer offset (FileInfo.handleOf info)) :=
  NativeText.read_bind hpath _

/-- A part of the file is offered to the buffer, and counted. -/
theorem respond_read (caller : Option Caller) (size : Nat) {offset : Int64}
    (hoffset : ¬ offset < 0) (handle : UInt64) (started : Timespec) :
    fileSystem.respond caller (.read readmePath size offset handle) started =
      .ask (⟨0, slice size offset.toInt.toNat⟩ : Placement) started fun _ started =>
        .done (.ok (slice size offset.toInt.toNat).length) started := by
  simp [fileSystem, hoffset]

theorem respond_read_of_neg (caller : Option Caller) (size : Nat) {offset : Int64}
    (hoffset : offset < 0) (handle : UInt64) (started : Timespec) :
    fileSystem.respond caller (.read readmePath size offset handle) started =
      .done (.error (.returned .invalid)) started := by
  simp [fileSystem, hoffset]

/-- A read puts the part of the file that it gets into the buffer. -/
theorem serve_read (h : srv.fileSystem = fileSystem) (hpath : path.Spells readmePath)
    (buffer : Buffer) {offset : Int64} (hoffset : ¬ offset < 0) (info : Option FileInfo)
    (state : Timespec) :
    let part := slice buffer.bytes.length offset.toInt.toNat
    let done := (Request.read path buffer offset info).serve srv state
    done.status = countStatus (Nat.min part.length (buffer.put 0 part).size) ∧
      done.memory = .buffer (buffer.put 0 part) ∧ done.state = state := by
  have hcall : srv.callWith (.read readmePath buffer.bytes.length offset (FileInfo.handleOf info))
      (fun (p : Placement) (b : Buffer) => (true, b.put p.offset p.bytes)) buffer { state } =
      ((.ok (slice buffer.bytes.length offset.toInt.toNat).length,
        buffer.put 0 (slice buffer.bytes.length offset.toInt.toNat)),
        { state, calls :=
          [.read readmePath buffer.bytes.length offset (FileInfo.handleOf info)] }) := by
    unfold Server.callWith
    rw [h, respond_read _ _ hoffset]
    rfl
  rw [Request.serve, decode_read hpath]
  dsimp only [Job.run, bind, StateT.bind]
  rw [hcall]
  exact ⟨rfl, rfl, rfl⟩

/-- A read before the start of the file fails. -/
theorem serve_read_of_neg (h : srv.fileSystem = fileSystem) (hpath : path.Spells readmePath)
    (buffer : Buffer) {offset : Int64} (hoffset : offset < 0) (info : Option FileInfo)
    (state : Timespec) :
    let done := (Request.read path buffer offset info).serve srv state
    done.status = Errno.invalid.status ∧ done.memory = .buffer buffer := by
  have hcall : srv.callWith (.read readmePath buffer.bytes.length offset (FileInfo.handleOf info))
      (fun (p : Placement) (b : Buffer) => (true, b.put p.offset p.bytes)) buffer { state } =
      ((.error (.returned .invalid), buffer),
        { state, calls :=
          [.read readmePath buffer.bytes.length offset (FileInfo.handleOf info)] }) := by
    unfold Server.callWith
    rw [h, respond_read_of_neg _ _ hoffset]
    rfl
  rw [Request.serve, decode_read hpath]
  dsimp only [Job.run, bind, StateT.bind]
  rw [hcall]
  exact ⟨rfl, rfl⟩

/-- What is read stands at the front of the buffer, and its count is told. -/
theorem serve_read_part (h : srv.fileSystem = fileSystem) (hpath : path.Spells readmePath)
    (buffer : Buffer) {offset : Int64} (hoffset : ¬ offset < 0) (info : Option FileInfo)
    (state : Timespec) :
    let part := slice buffer.bytes.length offset.toInt.toNat
    let done := (Request.read path buffer offset info).serve srv state
    done.status.toInt = part.length ∧
      done.memory = .buffer (buffer.withBytes (part ++ buffer.bytes.drop part.length)) ∧
      done.state = state := by
  obtain ⟨hstatus, hmemory, hstate⟩ := serve_read h hpath buffer hoffset info state
  dsimp only at hstatus hmemory hstate ⊢
  have hroom := length_slice_le buffer.bytes.length offset.toInt.toNat
  have hsmall := length_slice_le_readme buffer.bytes.length offset.toInt.toNat
  generalize slice buffer.bytes.length offset.toInt.toNat = part at *
  rw [Buffer.put_zero hroom] at hstatus hmemory
  refine ⟨?_, hmemory, hstate⟩
  -- A null buffer has no bytes, and then the part is empty.
  have hsize : part.length ≤ (buffer.withBytes (part ++ buffer.bytes.drop part.length)).size := by
    cases buffer with
    | null size => exact Nat.le_trans hroom (Nat.zero_le size)
    | block bytes => simp [Buffer.withBytes, Buffer.size]
  rw [hstatus, show Nat.min part.length _ = part.length from Nat.min_eq_left hsize,
    toInt_countStatus, greatestStatus]
  omega

/-- The size of the file does not depend on the caller. -/
theorem size_owned (started : Timespec) (caller : Option Caller) (s : Stat) :
    (owned started caller s).size = s.size := by
  cases caller with
  | none => rfl
  | some c => rfl

/-- The metadata of the file tells its size. -/
theorem serve_getattr (h : srv.fileSystem = fileSystem) (hpath : path.Spells readmePath)
    (record : PosixStat) (state : Timespec) :
    let done := (Request.getattr path (some record)).serve srv state
    done.status = 0 ∧ ∃ r, done.memory = .stat (some r) ∧ r.size.toInt = readme.length := by
  have hdecode : (Request.getattr path (some record)).decode =
      .ok (.getattr readmePath none record) := NativeText.read_bind hpath _
  have hcall : srv.call (.getattr readmePath none) { state } =
      (.ok (owned state srv.caller (.regular 0o444 (Int64.ofNat readme.length))),
        { state, calls := [.getattr readmePath none] }) := by
    unfold Server.call Server.callWith
    rw [h]
    rfl
  rw [Request.serve, hdecode]
  dsimp only [Job.run, bind, StateT.bind]
  rw [hcall]
  refine ⟨rfl, _, rfl, ?_⟩
  show (fit (owned state srv.caller _).size : Int64).toInt = readme.length
  rw [fit_self, size_owned, length_readme]
  rfl

end Requests

/-! ## Reading on -/

section ReadingOn

variable {σ : Type}

/-- One read into a block: the count that it tells, the block after it, and the state that
    it leaves. Nothing is known of one that fails. -/
def readOnce (srv : Server σ) (path : NativeText) (info : Option FileInfo) (block : List UInt8)
    (offset : Int64) (state : σ) : Option (Nat × List UInt8 × σ) :=
  let done := (Request.read path (.block block) offset info).serve srv state
  match done.memory with
  | .buffer b =>
    if done.status.toInt < 0 then none else some (done.status.toInt.toNat, b.bytes, done.state)
  | _ => none

/-- What is read into one block after the other, each time from where the last read ended,
    until a read tells that it got nothing. Nothing is known if one fails, or if there are
    no more blocks. -/
def readOn (srv : Server σ) (path : NativeText) (info : Option FileInfo) :
    List (List UInt8) → Int64 → σ → Option (List UInt8)
  | [], _, _ => none
  | block :: blocks, offset, state =>
    match readOnce srv path info block offset state with
    | none => none
    | some (n, bytes, state) =>
      if n = 0 then some []
      else (readOn srv path info blocks (offset + Int64.ofNat n) state).map (bytes.take n ++ ·)

variable {srv : Server σ} {path : NativeText} {info : Option FileInfo}

/-- Blocks that are left over do not count. -/
theorem readOn_append {blocks : List (List UInt8)} {offset : Int64} {state : σ}
    {bytes : List UInt8} (h : readOn srv path info blocks offset state = some bytes)
    (more : List (List UInt8)) :
    readOn srv path info (blocks ++ more) offset state = some bytes := by
  induction blocks generalizing offset state bytes with
  | nil => cases h
  | cons block blocks ih =>
    rw [List.cons_append]
    unfold readOn at h ⊢
    split at h
    next => cases h
    next =>
      split at h
      next hended =>
        rw [if_pos hended]
        exact h
      next hmore =>
        obtain ⟨rest, hrest, rfl⟩ := Option.map_eq_some_iff.mp h
        rw [if_neg hmore, ih hrest]
        rfl

end ReadingOn

section Readme

variable {srv : Server Timespec} {path : NativeText}

theorem readOnce_eq (h : srv.fileSystem = fileSystem) (hpath : path.Spells readmePath)
    (info : Option FileInfo) (old : List UInt8) {offset : Int64} (hoffset : ¬ offset < 0)
    (state : Timespec) :
    let part := slice old.length offset.toInt.toNat
    readOnce srv path info old offset state =
      some (part.length, part ++ old.drop part.length, state) := by
  obtain ⟨hstatus, hmemory, hstate⟩ := serve_read_part h hpath (.block old) hoffset info state
  have hnonneg : ¬ ((slice old.length offset.toInt.toNat).length : Int) < 0 := by omega
  unfold readOnce
  simp only [hmemory, hstatus, hstate, Int.toNat_natCast]
  exact if_neg hnonneg

/-- Where the last read ended the next one gets the part that follows, and reading goes on
    after it. At the end of the file it gets nothing. -/
theorem readOn_cons (h : srv.fileSystem = fileSystem) (hpath : path.Spells readmePath)
    (info : Option FileInfo) {block : List UInt8} (hroom : block ≠ []) (blocks : List (List UInt8))
    {offset : Int64} {n : Nat} (hoffset : offset.toInt = n) (hn : n ≤ readme.length)
    (state : Timespec) :
    readOn srv path info (block :: blocks) offset state =
      if n = readme.length then some []
      else
        (readOn srv path info blocks
          (offset + Int64.ofNat (slice block.length n).length) state).map
          (slice block.length n ++ ·) := by
  have hnonneg : ¬ offset < 0 := by
    rw [Int64.lt_iff_toInt_lt, hoffset]
    exact Int.not_lt.mpr (Int.natCast_nonneg n)
  have hsize : 0 < block.length := List.length_pos_iff.mpr hroom
  have hlength : (slice block.length n).length = min block.length (readme.length - n) := by
    rw [length_slice, Nat.min_eq_left hn]
  have hread := readOnce_eq h hpath info block hnonneg state
  rw [hoffset, Int.toNat_natCast] at hread
  have hend : (slice block.length n).length = 0 ↔ n = readme.length := by omega
  rw [readOn, hread]
  simp only [hend, List.take_left]

/-- What is left of the file goes on with the part that is read of it. -/
theorem slice_append_drop {n : Nat} (hn : n ≤ readme.length) (size : Nat) :
    slice size n ++ readme.drop (n + (slice size n).length) = readme.drop n := by
  have hfront : slice size n <+: readme.drop n := by
    rw [slice, show Nat.min n readme.length = n from Nat.min_eq_left hn]
    exact List.take_prefix _ _
  rw [← List.drop_drop]
  exact List.prefix_iff_eq_append.mp hfront

/-- Reading on from an offset ends with the rest of the file, unless the blocks are used up
    before; and then they are no more than the bytes that were left. -/
theorem readOn_from (h : srv.fileSystem = fileSystem) (hpath : path.Spells readmePath)
    (info : Option FileInfo) {blocks : List (List UInt8)} (hroom : ∀ block ∈ blocks, block ≠ [])
    {offset : Int64} {n : Nat} (hoffset : offset.toInt = n) (hn : n ≤ readme.length)
    (state : Timespec) :
    readOn srv path info blocks offset state = some (readme.drop n) ∨
      readOn srv path info blocks offset state = none ∧ blocks.length ≤ readme.length - n := by
  induction blocks generalizing offset n with
  -- Induction over the blocks. Each read gives a part, or nothing where the file has ended.
  | nil => exact .inr ⟨rfl, Nat.zero_le _⟩
  | cons block blocks ih =>
    obtain ⟨hblock, hroom⟩ := List.forall_mem_cons.mp hroom
    have hsize : 0 < block.length := List.length_pos_iff.mpr hblock
    have hlength : (slice block.length n).length = min block.length (readme.length - n) := by
      rw [length_slice, Nat.min_eq_left hn]
    rw [readOn_cons h hpath info hblock blocks hoffset hn state]
    split
    next hend =>
      rw [hend, List.drop_length]
      exact .inl rfl
    next hmore =>
      have hnext : (offset + Int64.ofNat (slice block.length n).length).toInt =
          (n + (slice block.length n).length : Nat) := by
        have hall := length_readme
        -- The file is short, so that adding to the offset does not wrap around.
        have hcount : (Int64.ofNat (slice block.length n).length).toInt =
            (slice block.length n).length := Int64.toInt_ofNat_of_lt (by omega)
        rw [Int64.toInt_add, hoffset, hcount, ← Int.natCast_add]
        exact Int.bmod_eq_of_le (by omega) (by omega)
      rcases ih hroom hnext (by omega) with hall | ⟨hnone, hfew⟩
      · rw [hall, Option.map_some, slice_append_drop hn]
        exact .inl rfl
      · rw [hnone, List.length_cons]
        exact .inr ⟨rfl, by omega⟩

/-- One who reads on from the start of the file, into blocks without an end, stops after so
    many of them, and has read the file. -/
theorem readOn_stops (h : srv.fileSystem = fileSystem) (hpath : path.Spells readmePath)
    (info : Option FileInfo) {blocks : Nat → List UInt8} (hroom : ∀ i, blocks i ≠ [])
    (state : Timespec) :
    ∃ k ≤ readme.length + 1, ∀ m,
      readOn srv path info ((List.range m).map blocks) 0 state =
        if m < k then none else some readme := by
  have hfirst (m : Nat) :
      readOn srv path info ((List.range m).map blocks) 0 state = some readme ∨
        readOn srv path info ((List.range m).map blocks) 0 state = none ∧
          ((List.range m).map blocks).length ≤ readme.length := by
    have hrooms : ∀ block ∈ (List.range m).map blocks, block ≠ [] := by simp [hroom]
    exact readOn_from h hpath info hrooms (n := 0) rfl (Nat.zero_le _) state
  -- With one block more than there are bytes, the end is reached.
  have hend : readOn srv path info ((List.range (readme.length + 1)).map blocks) 0 state =
      some readme := by
    rcases hfirst (readme.length + 1) with hall | ⟨-, hfew⟩
    · exact hall
    · rw [List.length_map, List.length_range] at hfew
      omega
  have hsome : ∃ m, readOn srv path info ((List.range m).map blocks) 0 state = some readme :=
    ⟨_, hend⟩
  -- The first number of blocks for which it is; more blocks change nothing.
  refine ⟨Nat.find hsome, Nat.find_le hend, fun m => ?_⟩
  split
  next hless =>
    rcases hfirst m with hall | ⟨hnone, -⟩
    · exact absurd hall (Nat.find_min hsome hless)
    · exact hnone
  next hmore =>
    obtain ⟨d, rfl⟩ := Nat.exists_eq_add_of_le (Nat.not_lt.mp hmore)
    rw [List.range_add, List.map_append]
    exact readOn_append (Nat.find_spec hsome) _

end Readme

/-- The file of the probe, as it is read by requests.

    A read at an offset that is not negative gets the `IsPart` of `readme` that is there, as far
    as the buffer has room. It tells the number of bytes, puts them at the front of the buffer and
    leaves the rest of it; a negative offset is refused. So one who `readOn`s from the start, by
    the numbers that are told and into blocks of whatever sizes, stops after at most one read more
    than the file has bytes, and has read the file. Its size is told by `getattr`. -/
theorem serve_readme {srv : Server Timespec} (h : srv.fileSystem = fileSystem) {path : NativeText}
    (hpath : path.Spells readmePath) (info : Option FileInfo) (state : Timespec) :
    (∀ (buffer : Buffer) (offset : Int64),
      (0 ≤ offset → ∃ part, IsPart part readme offset.toInt.toNat buffer.bytes.length ∧
        ((Request.read path buffer offset info).serve srv state).status.toInt = part.length ∧
        ((Request.read path buffer offset info).serve srv state).memory =
          .buffer (buffer.withBytes (part ++ buffer.bytes.drop part.length))) ∧
      (offset < 0 →
        ((Request.read path buffer offset info).serve srv state).status =
          Errno.invalid.status ∧
        ((Request.read path buffer offset info).serve srv state).memory = .buffer buffer)) ∧
    (∀ blocks : Nat → List UInt8, (∀ i, blocks i ≠ []) →
      ∃ k ≤ readme.length + 1, ∀ m,
        readOn srv path info ((List.range m).map blocks) 0 state =
          if m < k then none else some readme) ∧
    ∀ record : PosixStat,
      ((Request.getattr path (some record)).serve srv state).status = 0 ∧
      ∃ r, ((Request.getattr path (some record)).serve srv state).memory = .stat (some r) ∧
        r.size.toInt = readme.length := by
  refine ⟨fun buffer offset => ⟨fun hoffset => ?_, fun hoffset => ?_⟩, ?_, ?_⟩
  · have hnonneg : ¬ offset < 0 := Int64.not_lt.mpr hoffset
    obtain ⟨hstatus, hmemory, -⟩ := serve_read_part h hpath buffer hnonneg info state
    exact ⟨_, isPart_slice _ _, hstatus, hmemory⟩
  · exact serve_read_of_neg h hpath buffer hoffset info state
  · intro blocks hroom
    exact readOn_stops h hpath info hroom state
  · intro record
    exact serve_getattr h hpath record state

/-- A probe that does not know its callers. -/
def strangers : Server Timespec where
  fileSystem := fileSystem
  directIo := false
  caller := none
  clock := fun _ => .zero

/-- The path of the file, and what is behind its NUL. -/
def readmeText : NativeText :=
  some [47, 82, 69, 65, 68, 77, 69, 0, 255]

/-- Of the last two bytes of the file two are read into a buffer of four, before its start
    nothing is, and byte by byte the file is read as a whole. -/
theorem serve_readme_strangers :
    (((Request.read readmeText (.block [1, 2, 3, 4]) 24 none).serve strangers .zero).memory =
        .buffer (.block [101, 10, 3, 4]) ∧
      ∃ part, IsPart part readme 24 4 ∧
        ((Request.read readmeText (.block [1, 2, 3, 4]) 24 none).serve strangers
          .zero).status.toInt = part.length) ∧
    ((Request.read readmeText (.block [1, 2]) (-1) none).serve strangers .zero).status = -22 ∧
    ∃ k ≤ readme.length + 1, ∀ m,
      readOn strangers readmeText none ((List.range m).map fun _ => [0]) 0 .zero =
        if m < k then none else some readme := by
  have hpath : readmeText.Spells readmePath := ⟨_, rfl, by decide⟩
  have hprobe : strangers.fileSystem = fileSystem := rfl
  obtain ⟨hread, hstops, -⟩ := serve_readme hprobe hpath none .zero
  obtain ⟨part, hpart, hstatus, -⟩ := (hread (.block [1, 2, 3, 4]) 24).1 (by decide)
  exact ⟨⟨by rfl, part, hpart, hstatus⟩, ((hread (.block [1, 2]) (-1)).2 (by decide)).1,
    hstops _ (by simp)⟩

end HostedFs.Probe
