import HostedFs.Proofs.Request.Attributes
import Mathlib.Data.List.TakeDrop

/-! # Names read back

    The caller of a request for names reads them out of its buffer: each ends at a NUL.
    A name that has a NUL itself is packed as it is, and is read back as several.

    * `unpack?`: the pieces of bytes that end at a NUL each.
    * `unpack?_eq_some_iff`: there is one way to read, the reverse of packing.
    * `unpack?_packed`: names as they are read back.
    * `Completion.names?`, `serve_names`: what the caller reads is what was offered, if and
      only if no name has a NUL and the status can tell how many bytes there are.
-/

namespace HostedFs

variable {σ : Type}

/-! ## Reading -/

/-- Puts a byte in front of the first of some pieces. -/
def joinFirst (b : UInt8) : List (List UInt8) → Option (List (List UInt8))
  | [] => none
  | piece :: pieces => some ((b :: piece) :: pieces)

/-- The pieces of bytes, each of which ends at a NUL; `none` if the last does not end. -/
def unpack? : List UInt8 → Option (List (List UInt8))
  | [] => some []
  | b :: rest =>
    if b = 0 then (unpack? rest).map ([] :: ·) else (unpack? rest).bind (joinFirst b)

theorem unpack?_zero_cons (rest : List UInt8) :
    unpack? (0 :: rest) = (unpack? rest).map ([] :: ·) :=
  if_pos rfl

theorem unpack?_cons {b : UInt8} (h : b ≠ 0) (rest : List UInt8) :
    unpack? (b :: rest) = (unpack? rest).bind (joinFirst b) :=
  if_neg h

/-- Bytes before a NUL are read as the pieces between their own ones. -/
theorem unpack?_append (bytes rest : List UInt8) :
    unpack? (bytes ++ 0 :: rest) = (unpack? rest).map (bytes.splitOn 0 ++ ·) := by
  induction bytes with
  | nil => exact unpack?_zero_cons rest
  | cons b bytes ih =>
    have hsplit := List.splitOn_cons_eq_if_modifyHead (a := (0 : UInt8)) b bytes
    by_cases hb : b = 0
    · have hpieces : (b :: bytes).splitOn 0 = [] :: bytes.splitOn 0 := by simpa [hb] using hsplit
      rw [hpieces, List.cons_append, hb, unpack?_zero_cons, ih, Option.map_map]
      rfl
    · have hpieces : (b :: bytes).splitOn 0 = (bytes.splitOn 0).modifyHead (b :: ·) := by
        simpa [hb] using hsplit
      rw [hpieces, List.cons_append, unpack?_cons hb, ih]
      obtain ⟨piece, pieces, hfirst⟩ := List.exists_cons_of_ne_nil (List.splitOn_ne_nil 0 bytes)
      rw [hfirst]
      cases unpack? rest with
      | none => rfl
      | some after => rfl

/-- What was put together is read as the pieces of each item. -/
theorem unpack?_flatMap (items : List (List UInt8)) :
    unpack? (items.flatMap (· ++ [0])) = some (items.flatMap (·.splitOn 0)) := by
  induction items with
  | nil => rfl
  | cons item items ih =>
    rw [List.flatMap_cons, List.append_assoc, List.singleton_append, unpack?_append, ih]
    rfl

/-- What is read was put together, and no piece has a NUL. -/
theorem eq_flatMap_of_unpack? {bytes : List UInt8} {pieces : List (List UInt8)}
    (h : unpack? bytes = some pieces) :
    bytes = pieces.flatMap (· ++ [0]) ∧ ∀ piece ∈ pieces, 0 ∉ piece := by
  induction bytes generalizing pieces with
  -- A NUL closes the piece before it; any other byte joins the next piece, which must be there.
  | nil =>
    obtain rfl := Option.some.inj h
    exact ⟨rfl, by simp⟩
  | cons b bytes ih =>
    by_cases hb : b = 0
    · rw [hb, unpack?_zero_cons, Option.map_eq_some_iff] at h
      obtain ⟨after, hafter, rfl⟩ := h
      obtain ⟨hbytes, hnone⟩ := ih hafter
      refine ⟨?_, ?_⟩
      · rw [List.flatMap_cons, ← hbytes, hb]
        rfl
      · simpa using hnone
    · rw [unpack?_cons hb, Option.bind_eq_some_iff] at h
      obtain ⟨after, hafter, hjoin⟩ := h
      cases after with
      | nil => cases hjoin
      | cons piece after =>
        obtain rfl := Option.some.inj hjoin
        obtain ⟨hbytes, hnone⟩ := ih hafter
        refine ⟨?_, ?_⟩
        · rw [hbytes]
          rfl
        · have hpiece : 0 ∉ b :: piece := by
            have hrest := hnone piece (by simp)
            simp [hrest, Ne.symm hb]
          intro other hother
          cases hother with
          | head => exact hpiece
          | tail _ hother => exact hnone other (List.mem_cons_of_mem _ hother)

/-- There is one way to read bytes, and it is the reverse of putting them together. -/
theorem unpack?_eq_some_iff {bytes : List UInt8} {pieces : List (List UInt8)} :
    unpack? bytes = some pieces ↔
      bytes = pieces.flatMap (· ++ [0]) ∧ ∀ piece ∈ pieces, 0 ∉ piece := by
  constructor
  · exact eq_flatMap_of_unpack?
  · rintro ⟨rfl, hnone⟩
    have hwhole : pieces.flatMap (·.splitOn 0) = pieces := by
      have hsingle : ∀ piece ∈ pieces, piece.splitOn 0 = [piece] := fun piece hpiece =>
        List.splitOn_eq_singleton (hnone piece hpiece)
      rw [List.flatMap_congr hsingle, List.flatMap_singleton']
    rw [unpack?_flatMap, hwhole]

/-! ## Names -/

theorem packed_eq_flatMap (names : List String) :
    packed names = (names.map Text.bytes).flatMap (· ++ [0]) := by
  rw [packed, List.flatMap_map]

/-- A name is read back as the pieces between its NULs. -/
theorem unpack?_packed (names : List String) :
    unpack? (packed names) = some (names.flatMap fun name => (Text.bytes name).splitOn 0) := by
  rw [packed_eq_flatMap, unpack?_flatMap, List.flatMap_map]

/-- What is read from the front of packed names is these names, if and only if it is all
    of it and no name has a NUL. -/
theorem unpack?_take_packed_iff (names : List String) (n : Nat) :
    unpack? ((packed names).take n) = some (names.map Text.bytes) ↔
      (∀ name ∈ names, 0 ∉ Text.bytes name) ∧ Request.packedSize names ≤ n := by
  rw [unpack?_eq_some_iff, ← packed_eq_flatMap, List.take_eq_self_iff, length_packed,
    List.forall_mem_map, and_comm]

/-! ## Requests -/

/-- If no name was refused, the buffer starts with all of them. -/
theorem addAll_of_not_overflow {buffer : Buffer} (hsize : buffer.size ≠ 0) {names : List String}
    (h : ¬ (Packing.addAll names { buffer }).overflow = true) :
    (packed names).length ≤ buffer.bytes.length ∧
      (Packing.addAll names { buffer }).used = (packed names).length ∧
      (Packing.addAll names { buffer }).buffer =
        buffer.withBytes (packed names ++ buffer.bytes.drop (packed names).length) := by
  have hfits : ¬ (buffer.size ≠ 0 ∧ buffer.bytes.length < Request.packedSize names) := by
    rw [← Packing.overflow_addAll]
    exact h
  have hroom : (packed names).length ≤ buffer.bytes.length := by
    rw [length_packed]
    omega
  have hused : (Packing.addAll names { buffer }).used = (packed names).length := by
    rw [length_packed]
    exact Packing.used_addAll h
  have hput : (Packing.addAll names { buffer }).buffer = buffer.put 0 (packed names) := by
    refine Packing.buffer_addAll_of_room (p := { buffer }) hsize ?_
    rw [Nat.zero_add, ← length_packed]
    exact hroom
  exact ⟨hroom, hused, hput.trans (Buffer.put_zero hroom)⟩

/-- They are read from its front. -/
theorem take_bytes_of_packed {buffer : Buffer} {names : List String}
    (hroom : (packed names).length ≤ buffer.bytes.length) {n : Nat}
    (hn : n ≤ (packed names).length) :
    (buffer.withBytes (packed names ++ buffer.bytes.drop (packed names).length)).bytes.take n =
      (packed names).take n := by
  cases buffer with
  | null size =>
    have hnone : packed names = [] := List.eq_nil_of_length_eq_zero (Nat.le_zero.mp hroom)
    rw [hnone]
    rfl
  | block bytes => exact List.take_append_of_le_length hn

/-- A request for names that succeeds has packed all that it was offered. -/
theorem packs_listxattr (srv : Server σ) (p : String) {buffer : Buffer} (hsize : buffer.size ≠ 0)
    (state : σ) :
    Ensures (fun log out => 0 ≤ statusOf out.1 → ∃ names : List String,
      log = [⟨.listxattr p, names, .ok ()⟩] ∧ (packed names).length ≤ buffer.bytes.length ∧
      out = (.ok (countStatus (packed names).length),
        .buffer (buffer.withBytes (packed names ++ buffer.bytes.drop (packed names).length))))
      (Job.run srv.recorded (.listxattr p buffer)) { state := (state, []) } := by
  refine .callWith fun names result next => ?_
  cases result with
  | error f => exact .pure fun h => absurd h (Int.not_le.mpr f.expected_neg)
  | ok done =>
    refine .ite (fun _ => .pure fun h => ?_) fun hoverflow => .pure fun _ => ?_
    · exact absurd h (Int.not_le.mpr (Failure.expected_neg (.returned .range)))
    · obtain ⟨hroom, hused, hbuffer⟩ := addAll_of_not_overflow hsize hoverflow
      refine ⟨names, rfl, hroom, ?_⟩
      rw [← hbuffer, ← hused]
      rfl

/-- The names that the caller reads from its buffer: as many bytes of them as the status
    tells. -/
def Completion.names? (c : Completion σ) : Option (List (List UInt8)) :=
  match c.memory with
  | .buffer after => unpack? (after.bytes.take c.status.toInt.toNat)
  | _ => none

/-- What is offered in a request for names, and what the caller reads.

    If the request succeeds, all names that were offered are packed. The caller reads these
    `names?` if and only if none of them has a NUL and their `packedSize` is not more than a
    status can tell. A name that has one is read as the pieces between its NULs, each of them like
    a name of its own. -/
theorem serve_names (srv : Server σ) {path : NativeText} {buffer : Buffer} {state : σ}
    (hsize : buffer.size ≠ 0)
    (hstatus : 0 ≤ ((Request.listxattr path buffer).serve srv state).status) :
    ∃ (p : String) (names : List String),
      (Request.listxattr path buffer).log srv state = [⟨.listxattr p, names, .ok ()⟩] ∧
      (((Request.listxattr path buffer).serve srv state).names? = some (names.map Text.bytes) ↔
        (∀ name ∈ names, 0 ∉ Text.bytes name) ∧
          (Request.packedSize names : Int) ≤ greatestStatus) ∧
      ((Request.packedSize names : Int) ≤ greatestStatus →
        ((Request.listxattr path buffer).serve srv state).names? =
          some (names.flatMap fun name => (Text.bytes name).splitOn 0)) := by
  rw [Int32.le_iff_toInt_le] at hstatus
  cases hdecode : (Request.listxattr path buffer).decode with
  | error e =>
    -- A refused request has a negative status.
    rw [serve_of_undecoded srv hdecode, e.toInt_status] at hstatus
    exact absurd hstatus (Int.not_le.mpr e.expected_neg)
  | ok job =>
    obtain ⟨p, -, rfl⟩ := job_of_read hdecode
    obtain ⟨result, hpacks, htold⟩ :=
      serve_ensures srv hdecode state (packs_listxattr srv p hsize state)
    rw [htold] at hstatus
    obtain ⟨names, hlog, hroom, hout⟩ := hpacks hstatus
    obtain ⟨rfl, hmemory⟩ := Prod.mk.inj hout
    have hread : ((Request.listxattr path buffer).serve srv state).names? =
        unpack? ((packed names).take (min ((packed names).length : Int) greatestStatus).toNat) := by
      rw [Completion.names?, hmemory, htold, statusOf, toInt_countStatus]
      dsimp only
      rw [take_bytes_of_packed hroom (by omega)]
    have hgreatest : 0 ≤ greatestStatus := by decide
    have hlength := length_packed names
    -- The caller takes as many bytes as it was told, and these are all unless they are too many.
    have hcount : Request.packedSize names ≤
        (min ((packed names).length : Int) greatestStatus).toNat ↔
        (Request.packedSize names : Int) ≤ greatestStatus := by
      omega
    refine ⟨p, names, hlog, ?_, fun hfits => ?_⟩
    · rw [hread]
      exact (unpack?_take_packed_iff names _).trans (and_congr_right' hcount)
    · rw [hread, List.take_of_length_le (by omega), unpack?_packed]

/-- To have the names of the root listed, with a buffer of sixteen bytes. -/
def listing : Request :=
  .listxattr (some [47]) (.block (List.replicate 16 127))

/-- Names without a NUL are read back. -/
theorem serve_names_lister :
    listing.log (lister ["user", "b"]) () = [⟨.listxattr "/", ["user", "b"], .ok ()⟩] ∧
      (listing.serve (lister ["user", "b"]) ()).names? =
        some [Text.bytes "user", Text.bytes "b"] := by
  have hlog : listing.log (lister ["user", "b"]) () =
      [⟨.listxattr "/", ["user", "b"], .ok ()⟩] := by rfl
  have hsize : (Buffer.block (List.replicate 16 127)).size ≠ 0 := by decide
  have hstatus : 0 ≤ (listing.serve (lister ["user", "b"]) ()).status := by decide
  obtain ⟨p, names, hnames, hiff, -⟩ := serve_names (lister ["user", "b"]) hsize hstatus
  have hsame := hlog.symm.trans hnames
  cases hsame
  have hclean : ∀ name ∈ ["user", "b"], 0 ∉ Text.bytes name := by
    rw [List.forall_mem_cons, List.forall_mem_singleton]
    decide
  exact ⟨hlog, hiff.mpr ⟨hclean, by decide⟩⟩

/-- One name is offered and packed, and two others are read. -/
theorem other_names_read :
    listing.log (lister ["a\x00b"]) () = [⟨.listxattr "/", ["a\x00b"], .ok ()⟩] ∧
      (listing.serve (lister ["a\x00b"]) ()).status = 4 ∧
      (listing.serve (lister ["a\x00b"]) ()).names? = some [Text.bytes "a", Text.bytes "b"] ∧
      (listing.serve (lister ["a\x00b"]) ()).names? ≠ some (["a\x00b"].map Text.bytes) := by
  refine ⟨by rfl, by rfl, by rfl, ?_⟩
  decide

end HostedFs
