import HostedFs.Proofs.Request.Outputs
import HostedFs.Proofs.Request.Packing

/-! # The size of an attribute

    A caller may ask for an attribute twice, or for the list of their names: without
    room first, to be told the size, and then with a buffer. If the implementation has
    the same to say both times, the two answers agree, and the buffer either holds all
    of it or is refused as too small.

    * `Holds`, `Sized`, `serve_sized`: one request, by what there is to say to it and by
      its buffer.
    * `Spares`, `serve_spares`: what no request changes, whatever is said to it.
    * `SizeProtocol`, `serve_attributes`: two requests for the same.
-/

namespace HostedFs

variable {σ : Type}

/-! ## Jobs -/

/-- What a step comes to goes into the rest. -/
theorem fst_bind {α β τ : Type} {m : StateM τ α} {f : α → StateM τ β} {s : τ} {a : α}
    (h : (m s).1 = a) : ((m >>= f) s).1 = (f a (m s).2).1 := by
  rw [← h]
  rfl

/-- A value is stored at once, or not at all. -/
theorem run_getxattr (srv : Server σ) {p n : String} {value : List UInt8} {state : σ}
    (h : (srv.fileSystem.respond srv.caller (.getxattr p n) state).Offers [] (.ok value))
    (buffer : Buffer) :
    (Job.run srv (.getxattr p n buffer) { state }).1 =
      if buffer.size = 0 then (.ok (countStatus value.length), .buffer buffer)
      else if buffer.bytes.length < value.length then (.error (.returned .range), .buffer buffer)
      else (.ok (countStatus value.length), .buffer (buffer.put 0 value)) := by
  have hcall : (srv.call (.getxattr p n) { state }).1 = .ok value := h.result_run _ ()
  refine (fst_bind hcall).trans ?_
  dsimp only
  split
  · rfl
  · split
    · rfl
    · rfl

/-- Names are packed one by one, and the status shows what has become of them. -/
theorem run_listxattr (srv : Server σ) {p : String} {names : List String} {state : σ}
    (h : (srv.fileSystem.respond srv.caller (.listxattr p) state).Offers names (.ok ()))
    (buffer : Buffer) {packing : Packing}
    (hpacking : ((srv.fileSystem.respond srv.caller (.listxattr p) state).run
      Packing.add { buffer }).2.2 = packing) :
    (Job.run srv (.listxattr p buffer) { state }).1 =
      if packing.overflow then (.error (.returned .range), .buffer packing.buffer)
      else (.ok (countStatus packing.used), .buffer packing.buffer) := by
  have hcall : (srv.callWith (.listxattr p) Packing.add { buffer } { state }).1 =
      (.ok (), packing) :=
    Prod.ext (h.result_run _ _) hpacking
  refine (fst_bind hcall).trans ?_
  dsimp only
  split
  · rfl
  · rfl

/-- What the job of a request ends with is what the request comes to. -/
theorem serve_of_run (srv : Server σ) {r : Request} {job : Job} (h : r.decode = .ok job)
    {state : σ} {result : Except Failure Int32} {memory : Memory}
    (hrun : (job.run srv { state }).1 = (result, memory)) :
    (r.serve srv state).status.toInt = statusOf result ∧ (r.serve srv state).memory = memory := by
  unfold Request.serve
  rw [h]
  dsimp only
  generalize job.run srv { state } = ran at hrun
  obtain ⟨out, service⟩ := ran
  obtain rfl : out = (result, memory) := hrun
  cases result with
  | ok status => exact ⟨rfl, rfl⟩
  | error f => exact ⟨f.toInt_status, rfl⟩

/-! ## Requests -/

/-- What the implementation has to say to a request, whatever its buffer is: a value, or
    the names of a list. -/
inductive Holds (srv : Server σ) (state : σ) : (Buffer → Request) → List UInt8 → Prop
  | value {path name : NativeText} {p n : String} {value : List UInt8}
      (path_read : path.read = .ok p) (name_read : name.read = .ok n)
      (answers : (srv.fileSystem.respond srv.caller (.getxattr p n) state).Offers [] (.ok value)) :
      Holds srv state (.getxattr path name) value
  | names {path : NativeText} {p : String} {names : List String} (path_read : path.read = .ok p)
      (answers : (srv.fileSystem.respond srv.caller (.listxattr p) state).Offers names (.ok ())) :
      Holds srv state (.listxattr path) (packed names)

/-- What a request for some bytes comes to, by its buffer. -/
inductive Sized (content : List UInt8) (buffer : Buffer) : Int → Memory → Prop
  /-- Without room to be filled, the size is told, as far as a status can. -/
  | told (unsized : buffer.size = 0) :
      Sized content buffer (min (content.length : Int) greatestStatus) (.buffer buffer)
  /-- If there is enough room the same is told, and the rest of the buffer is as it was. -/
  | filled (sized : buffer.size ≠ 0) (room : content.length ≤ buffer.bytes.length) :
      Sized content buffer (min (content.length : Int) greatestStatus)
        (.buffer (buffer.withBytes (content ++ buffer.bytes.drop content.length)))
  /-- Otherwise the request is refused. -/
  | short (sized : buffer.size ≠ 0) (short : buffer.bytes.length < content.length)
      (memory : Memory) : Sized content buffer (-34) memory

namespace Sized

variable {content : List UInt8} {buffer : Buffer} {status : Int} {memory : Memory}

theorem of_unsized (h : Sized content buffer status memory) (unsized : buffer.size = 0) :
    status = min (content.length : Int) greatestStatus ∧ memory = .buffer buffer := by
  cases h with
  | told => exact ⟨rfl, rfl⟩
  | filled sized => exact absurd unsized sized
  | short sized => exact absurd unsized sized

theorem of_room (h : Sized content buffer status memory) (sized : buffer.size ≠ 0)
    (room : content.length ≤ buffer.bytes.length) :
    status = min (content.length : Int) greatestStatus ∧
      memory = .buffer (buffer.withBytes (content ++ buffer.bytes.drop content.length)) := by
  cases h with
  | told unsized => exact absurd unsized sized
  | filled => exact ⟨rfl, rfl⟩
  | short _ short => exact absurd room (Nat.not_le.mpr short)

theorem of_short (h : Sized content buffer status memory) (sized : buffer.size ≠ 0)
    (short : buffer.bytes.length < content.length) : status = -34 := by
  cases h with
  | told unsized => exact absurd unsized sized
  | filled _ room => exact absurd room (Nat.not_le.mpr short)
  | short => rfl

/-- It shows in the status whether there was enough room. -/
theorem nonneg_iff (h : Sized content buffer status memory) (sized : buffer.size ≠ 0) :
    0 ≤ status ↔ content.length ≤ buffer.bytes.length := by
  by_cases room : content.length ≤ buffer.bytes.length
  · have hstatus := (h.of_room sized room).1
    have hgreatest : 0 ≤ greatestStatus := by decide
    exact iff_of_true (by omega) room
  · have hstatus := h.of_short sized (Nat.not_le.mp room)
    exact iff_of_false (by omega) room

end Sized

/-- A request for a value. -/
theorem sized_getxattr (srv : Server σ) {path name : NativeText} {p n : String}
    {value : List UInt8} {state : σ} (hpath : path.read = .ok p) (hname : name.read = .ok n)
    (h : (srv.fileSystem.respond srv.caller (.getxattr p n) state).Offers [] (.ok value))
    (buffer : Buffer) :
    Sized value buffer ((Request.getxattr path name buffer).serve srv state).status.toInt
      ((Request.getxattr path name buffer).serve srv state).memory := by
  have hdecode : (Request.getxattr path name buffer).decode = .ok (.getxattr p n buffer) := by
    simp [Request.decode, hpath, hname, bind, Except.bind, pure, Except.pure]
  -- A size of zero asks for the number of bytes only.
  have hrun := run_getxattr srv h buffer
  by_cases hsize : buffer.size = 0
  · rw [if_pos hsize] at hrun
    obtain ⟨hstatus, hmemory⟩ := serve_of_run srv hdecode hrun
    rw [hstatus, hmemory, statusOf, toInt_countStatus]
    exact .told hsize
  · rw [if_neg hsize] at hrun
    by_cases hshort : buffer.bytes.length < value.length
    · rw [if_pos hshort] at hrun
      obtain ⟨hstatus, -⟩ := serve_of_run srv hdecode hrun
      rw [hstatus]
      exact .short hsize hshort _
    · rw [if_neg hshort] at hrun
      obtain ⟨hstatus, hmemory⟩ := serve_of_run srv hdecode hrun
      have hroom : value.length ≤ buffer.bytes.length := Nat.not_lt.mp hshort
      rw [hstatus, hmemory, statusOf, toInt_countStatus, Buffer.put_zero hroom]
      exact .filled hsize hroom

/-- A request for a list of names. -/
theorem sized_listxattr (srv : Server σ) {path : NativeText} {p : String} {names : List String}
    {state : σ} (hpath : path.read = .ok p)
    (h : (srv.fileSystem.respond srv.caller (.listxattr p) state).Offers names (.ok ()))
    (buffer : Buffer) :
    Sized (packed names) buffer ((Request.listxattr path buffer).serve srv state).status.toInt
      ((Request.listxattr path buffer).serve srv state).memory := by
  have hdecode : (Request.listxattr path buffer).decode = .ok (.listxattr p buffer) := by
    simp [Request.decode, hpath, bind, Except.bind, pure, Except.pure]
  by_cases hshort : buffer.size ≠ 0 ∧ buffer.bytes.length < Request.packedSize names
  · -- A name was refused. What follows it does not matter.
    have hoverflow := Packing.run_add_of_short h (p := { buffer }) hshort.1 (Nat.zero_le _)
      (by rw [Nat.zero_add]; exact hshort.2)
    have hrun := run_listxattr srv h buffer rfl
    rw [if_pos hoverflow] at hrun
    obtain ⟨hstatus, -⟩ := serve_of_run srv hdecode hrun
    rw [hstatus]
    exact .short hshort.1 ((length_packed names).symm ▸ hshort.2) _
  · -- There is room for all names, or the size alone is asked for.
    have hroom : buffer.size = 0 ∨ 0 + Request.packedSize names ≤ buffer.bytes.length := by
      omega
    have hrun := run_listxattr srv h buffer (Packing.run_add_of_room h (p := { buffer }) hroom)
    have hoverflow : ¬ (Packing.addAll names { buffer }).overflow = true := by
      rw [Packing.overflow_addAll]
      exact hshort
    rw [if_neg hoverflow, Packing.used_addAll hoverflow] at hrun
    obtain ⟨hstatus, hmemory⟩ := serve_of_run srv hdecode hrun
    rw [hstatus, hmemory, statusOf, toInt_countStatus, ← length_packed]
    by_cases hsize : buffer.size = 0
    · rw [Packing.buffer_addAll_of_size_eq_zero hsize]
      exact .told hsize
    · have hfits := hroom.resolve_left hsize
      have hroom : (packed names).length ≤ buffer.bytes.length := by
        rw [length_packed]
        omega
      rw [Packing.buffer_addAll_of_room hsize hfits, Buffer.put_zero hroom]
      exact .filled hsize hroom

/-- A request is served by its buffer and by what there is to say to it. -/
theorem serve_sized (srv : Server σ) {request : Buffer → Request} {content : List UInt8}
    {state : σ} (h : Holds srv state request content) (buffer : Buffer) :
    Sized content buffer ((request buffer).serve srv state).status.toInt
      ((request buffer).serve srv state).memory := by
  cases h with
  | value hpath hname answers => exact sized_getxattr srv hpath hname answers buffer
  | names hpath answers => exact sized_listxattr srv hpath answers buffer

/-! ## Whatever the implementation does -/

/-- The requests for bytes whose size the caller cannot know. -/
inductive Sizing : (Buffer → Request) → Prop
  | value (path name : NativeText) : Sizing (.getxattr path name)
  | names (path : NativeText) : Sizing (.listxattr path)

/-- Bytes are changed only within the buffer, and a request for a value that fails
    changes none. -/
structure Spares (request : Buffer → Request) (buffer : Buffer) (status : Int) (memory : Memory) :
    Prop where
  bounded : ∃ after, memory = .buffer after ∧ buffer.Rewritten after
  untouched : (request buffer).operation = "getxattr" → status < 0 → memory = .buffer buffer

namespace Spares

variable {request : Buffer → Request} {buffer : Buffer} {status : Int}

/-- Nothing has changed. -/
theorem same : Spares request buffer status (.buffer buffer) where
  bounded := ⟨buffer, rfl, .refl buffer⟩
  untouched _ _ := rfl

/-- The request is not for a value. -/
theorem names {path : NativeText} {after : Buffer} (h : buffer.Rewritten after) :
    Spares (.listxattr path) buffer status (.buffer after) where
  bounded := ⟨after, rfl, h⟩
  untouched own := absurd own (by simp [Request.operation])

/-- A value was stored, and that has not failed. -/
theorem value (n : Nat) (bytes : List UInt8) :
    Spares request buffer (countStatus n).toInt (.buffer (buffer.put 0 bytes)) where
  bounded := ⟨_, rfl, .put buffer 0 bytes⟩
  untouched _ hneg := by
    rw [toInt_countStatus, greatestStatus] at hneg
    omega

end Spares

theorem spares_getxattr (srv : Server σ) (path name : NativeText) (p n : String) (buffer : Buffer)
    (state : σ) :
    Ensures (fun _ out => Spares (.getxattr path name) buffer (statusOf out.1) out.2)
      (Job.run srv.recorded (.getxattr p n buffer)) { state := (state, []) } := by
  refine .call fun asked result next => ?_
  cases result with
  | ok value =>
    exact .ite (fun _ => .pure .same) fun _ =>
      .ite (fun _ => .pure .same) fun _ => .pure (.value _ _)
  | error f => exact .pure .same

theorem spares_listxattr (srv : Server σ) (path : NativeText) (p : String) (buffer : Buffer)
    (state : σ) :
    Ensures (fun _ out => Spares (.listxattr path) buffer (statusOf out.1) out.2)
      (Job.run srv.recorded (.listxattr p buffer)) { state := (state, []) } := by
  refine .callWith fun names result next => ?_
  have hpacked := Packing.rewritten_addAll names { buffer }
  cases result with
  | ok done => exact .ite (fun _ => .pure (.names hpacked)) fun _ => .pure (.names hpacked)
  | error f => exact .pure (.names hpacked)

theorem serve_spares (srv : Server σ) {request : Buffer → Request} (h : Sizing request)
    (state : σ) (buffer : Buffer) :
    Spares request buffer ((request buffer).serve srv state).status.toInt
      ((request buffer).serve srv state).memory := by
  cases hdecode : (request buffer).decode with
  | error e =>
    -- Nothing was called, and the memory is as it was.
    have hsame : (request buffer).memory = .buffer buffer := by cases h <;> rfl
    rw [serve_of_undecoded srv hdecode, hsame]
    exact .same
  | ok job =>
    have hjob : Ensures (fun _ out => Spares request buffer (statusOf out.1) out.2)
        (job.run srv.recorded) { state := (state, []) } := by
      cases h with
      | value path name =>
        obtain ⟨p, n, -, -, rfl⟩ := job_of_reads hdecode
        exact spares_getxattr srv path name p n buffer state
      | names path =>
        obtain ⟨p, -, rfl⟩ := job_of_read hdecode
        exact spares_listxattr srv path p buffer state
    obtain ⟨result, hspares, hstatus⟩ := serve_ensures srv hdecode state hjob
    rw [hstatus]
    exact hspares

/-! ## Two requests -/

/-- Two requests for the same, from two states: one is given no room, to be told the
    size, and the other a buffer. -/
structure SizeProtocol (srv : Server σ) (request : Buffer → Request) (content : List UInt8)
    (first second : σ) : Prop where
  /-- The size is told, as far as a status can. -/
  told : ∀ probe, probe.size = 0 →
    ((request probe).serve srv first).status.toInt = min (content.length : Int) greatestStatus ∧
      ((request probe).serve srv first).memory = .buffer probe
  /-- The buffer is filled if and only if it is large enough. -/
  filled_iff : ∀ buffer, buffer.size ≠ 0 →
    (0 ≤ ((request buffer).serve srv second).status ↔ content.length ≤ buffer.bytes.length)
  /-- Then the same is told, and what follows in the buffer is as it was. -/
  filled : ∀ probe buffer, probe.size = 0 → buffer.size ≠ 0 →
    content.length ≤ buffer.bytes.length →
    ((request buffer).serve srv second).status = ((request probe).serve srv first).status ∧
      ((request buffer).serve srv second).memory =
        .buffer (buffer.withBytes (content ++ buffer.bytes.drop content.length))
  /-- Otherwise it is refused as too small. -/
  refused : ∀ buffer, buffer.size ≠ 0 → buffer.bytes.length < content.length →
    ((request buffer).serve srv second).status = -34

theorem sizeProtocol_of_sized (srv : Server σ) {request : Buffer → Request}
    {content : List UInt8} {first second : σ}
    (hfirst : ∀ buffer, Sized content buffer ((request buffer).serve srv first).status.toInt
      ((request buffer).serve srv first).memory)
    (hsecond : ∀ buffer, Sized content buffer ((request buffer).serve srv second).status.toInt
      ((request buffer).serve srv second).memory) :
    SizeProtocol srv request content first second where
  told probe unsized := (hfirst probe).of_unsized unsized
  filled_iff buffer sized := by
    rw [Int32.le_iff_toInt_le]
    exact (hsecond buffer).nonneg_iff sized
  filled probe buffer unsized sized room := by
    obtain ⟨hasked, -⟩ := (hfirst probe).of_unsized unsized
    obtain ⟨hstatus, hmemory⟩ := (hsecond buffer).of_room sized room
    exact ⟨Int32.toInt_inj.mp (hstatus.trans hasked.symm), hmemory⟩
  refused buffer sized short := Int32.toInt_inj.mp ((hsecond buffer).of_short sized short)

/-- The size of a value or of a list of names can be asked for, and a buffer of that size is
    enough.

    Say the implementation `Holds` the same bytes for both of two requests, whether it goes on
    after a name was refused or not. Then they keep to the `SizeProtocol`: with no room to be
    filled, the first is told their number and nothing is stored; with some, the second succeeds
    if and only if there is room for all of them, and then it is told the same number, the buffer
    starts with them, and the rest of it is as it was. If there is less, it is refused.

    And whatever the implementation does, a request `Spares` the bytes outside of the buffer, and
    all bytes where a request for a value fails. -/
theorem serve_attributes (srv : Server σ) {request : Buffer → Request} (h : Sizing request) :
    (∀ content first second, Holds srv first request content →
      Holds srv second request content → SizeProtocol srv request content first second) ∧
    ∀ state buffer, Spares request buffer ((request buffer).serve srv state).status.toInt
      ((request buffer).serve srv state).memory := by
  refine ⟨fun content first second hfirst hsecond => ?_, serve_spares srv h⟩
  exact sizeProtocol_of_sized srv (serve_sized srv hfirst) (serve_sized srv hsecond)

/-- To offer names to the end, whether they are refused or not. -/
def insist : List String → Unit → Exchange Unit String (Except Failure Unit)
  | [], state => .done (.ok ()) state
  | name :: rest, state => .ask name state fun _ state => insist rest state

theorem insist_ends {names : List String} {state final : Unit} {told : List (String × Bool)}
    {result : Except Failure Unit} (h : (insist names state).Plays told result final) :
    result = .ok () := by
  induction names generalizing state told with
  | nil =>
    cases h
    rfl
  | cons name rest ih =>
    cases h with
    | ask h => exact ih h

theorem insist_offers (names : List String) (state : Unit) :
    (insist names state).Offers names (.ok ()) := by
  induction names with
  | nil => exact .done _ state
  | cons name rest ih => exact .ask ih fun _ _ _ h => insist_ends h

/-- A server whose implementation has these names for every file. -/
def lister (names : List String) : Server Unit where
  fileSystem.respond
    | _, .listxattr _, state => insist names state
    | _, c, state => .done c.unimplemented state
  directIo := false
  caller := none
  clock := fun _ => ⟨0, 0⟩

/-- A name that is refused may be followed by one for which there is room. Seven bytes are
    needed for both. -/
theorem serve_attributes_lister :
    SizeProtocol (lister ["user", "b"]) (.listxattr (some [47])) [117, 115, 101, 114, 0, 98, 0]
      () () ∧
    ((Request.listxattr (some [47]) (.block (List.replicate 6 127))).serve
      (lister ["user", "b"]) ()).status = -34 := by
  have hpath : NativeText.read (some [47]) = .ok "/" := rfl
  have hnames : packed ["user", "b"] = [117, 115, 101, 114, 0, 98, 0] := by decide
  have hholds : Holds (lister ["user", "b"]) () (.listxattr (some [47])) (packed ["user", "b"]) :=
    .names hpath (insist_offers _ ())
  have hprotocol := (serve_attributes (lister ["user", "b"]) (.names (some [47]))).1 _ () ()
    hholds hholds
  rw [hnames] at hprotocol
  exact ⟨hprotocol, hprotocol.refused _ (by decide) (by decide)⟩

end HostedFs
