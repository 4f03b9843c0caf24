import HostedFs.Proofs.Request.Packing

/-! # Texts in a buffer

    A text that the implementation answers is put into a buffer with a NUL after it. What
    has no room is cut off, but the NUL never is: the text that is read from the buffer
    ends within it, and nothing after its end is touched.

    * `IsLongestPrefix`: the most of some bytes that there is room for.
    * `Buffer.ShowsText`, `showsText_putText`: what a buffer shows of a text.
    * `Request.ForText`, `TellsText`: the requests for a text, and their answers.
    * `serve_texts`: the buffer after such a request.
-/

namespace HostedFs

variable {σ : Type}

/-! ## Cut texts -/

/-- The bytes are at the front of others, no more than a number of them, and no longer
    ones are. -/
structure IsLongestPrefix (front bytes : List UInt8) (room : Nat) : Prop where
  isFront : front <+: bytes
  fits : front.length ≤ room
  longest : ∀ other, other <+: bytes → other.length ≤ room → other <+: front

theorem isLongestPrefix_take (bytes : List UInt8) (room : Nat) :
    IsLongestPrefix (bytes.take room) bytes room where
  isFront := List.take_prefix room bytes
  fits := List.length_take_le room bytes
  longest _ hfront hfits := List.prefix_take_iff.mpr ⟨hfront, hfits⟩

/-- A text ends at the first NUL. -/
theorem NativeText.untilNul_append {text : List UInt8} (h : 0 ∉ text) (rest : List UInt8) :
    untilNul (text ++ 0 :: rest) = text := by
  have hall : ∀ b ∈ text, (decide (b ≠ 0)) = true := by
    intro b hb
    rw [decide_eq_true_iff]
    rintro rfl
    exact h hb
  rw [untilNul, List.takeWhile_append_of_pos hall, List.takeWhile_cons_of_neg (by decide),
    List.append_nil]

namespace Buffer

/-- The bytes of a buffer after a text was put into it: as much of the text as leaves
    room for a NUL, the NUL, and what was there before. -/
structure ShowsText (s : String) (old new : List UInt8) : Prop where
  length_eq : new.length = old.length
  text : IsLongestPrefix (NativeText.untilNul new) (Text.bytes s) (old.length - 1)
  /-- The text ends within the buffer. -/
  ended : new[(NativeText.untilNul new).length]? = some 0
  /-- No byte after that is touched. -/
  kept : ∀ i, (NativeText.untilNul new).length < i → new[i]? = old[i]?

/-- Without room for a NUL nothing is put. -/
theorem putText_of_bytes_eq_nil {b : Buffer} (h : b.bytes = []) (s : String) :
    b.putText s = b := by
  unfold putText
  rw [h]

/-- The bytes of a text that are put before its NUL. -/
def cutText (s : String) (size : Nat) : List UInt8 :=
  (Text.bytes s).take (size - 1)

/-- They leave room for it. -/
theorem length_cutText_lt (s : String) {old : List UInt8} (h : old ≠ []) :
    (cutText s old.length).length < old.length := by
  have hpos : 0 < old.length := List.length_pos_iff.mpr h
  have hle : (cutText s old.length).length ≤ old.length - 1 := List.length_take_le _ _
  omega

theorem putText_block (s : String) {old : List UInt8} (h : old ≠ []) :
    (block old).putText s =
      block (cutText s old.length ++ 0 :: old.drop ((cutText s old.length).length + 1)) := by
  have hroom := length_cutText_lt s h
  cases old with
  | nil => exact absurd rfl h
  | cons b room =>
    have hput : (block (b :: room)).putText s =
        (block (b :: room)).put 0 (cutText s (b :: room).length ++ [0]) := rfl
    have hlength : (cutText s (b :: room).length ++ [0]).length =
        (cutText s (b :: room).length).length + 1 := by simp
    rw [hput, put_zero (by rw [hlength]; exact hroom), hlength, List.append_assoc]
    rfl

/-- Whatever was in a buffer, it shows the most of a text that has room before a NUL. -/
theorem showsText_putText {s : String} (hclean : 0 ∉ Text.bytes s) {old : List UInt8}
    (h : old ≠ []) : ∃ new, (block old).putText s = block new ∧ ShowsText s old new := by
  refine ⟨_, putText_block s h, ?_⟩
  have hroom := length_cutText_lt s h
  have hcut : 0 ∉ cutText s old.length := fun hmem => hclean (List.mem_of_mem_take hmem)
  generalize hfront : cutText s old.length = front at *
  -- The text was cut so that the NUL behind it is the first one.
  have hread : NativeText.untilNul (front ++ 0 :: old.drop (front.length + 1)) = front :=
    NativeText.untilNul_append hcut _
  constructor
  · rw [List.length_append, List.length_cons, List.length_drop]
    omega
  · rw [hread, ← hfront]
    exact isLongestPrefix_take _ _
  · rw [hread, List.getElem?_append_right (Nat.le_refl _), Nat.sub_self]
    rfl
  · intro i hi
    rw [hread] at hi
    obtain ⟨n, rfl⟩ := Nat.exists_eq_add_of_lt hi
    have hindex : front.length + n + 1 - front.length = n + 1 := by omega
    rw [List.getElem?_append_right (by omega), hindex, List.getElem?_cons_succ,
      List.getElem?_drop]
    congr 1
    omega

end Buffer

/-! ## Requests -/

/-- The implementation answered with a text. -/
inductive TellsText : Conversation → String → Prop
  | readlink {path s : String} {asked : List (Call.readlink path).Prompt} :
      TellsText ⟨.readlink path, asked, .ok s⟩ s
  | getpath {path s : String} {handle : Option UInt64}
      {asked : List (Call.getpath path handle).Prompt} :
      TellsText ⟨.getpath path handle, asked, .ok s⟩ s

/-- The request is to be answered with a text in a buffer. -/
inductive Request.ForText : Request → Buffer → Prop
  | readlink {path : NativeText} {buffer : Buffer} : ForText (.readlink path buffer) buffer
  | getpath {path : NativeText} {buffer : Buffer} {info : Option FileInfo} :
      ForText (.getpath path buffer info) buffer

/-- The job succeeds if the implementation tells a text, and that is put into the
    buffer. -/
structure PutsText (buffer : Buffer) (log : List Conversation)
    (out : Except Failure Int32 × Memory) : Prop where
  succeeds : 0 ≤ statusOf out.1 ↔ ∃ v s, log = [v] ∧ TellsText v s
  puts : ∀ v s, log = [v] → TellsText v s → out = (.ok 0, .buffer (buffer.putText s))

namespace PutsText

variable {buffer : Buffer} {v : Conversation}

theorem told {s : String} (h : TellsText v s) :
    PutsText buffer [v] (.ok 0, .buffer (buffer.putText s)) where
  succeeds := ⟨fun _ => ⟨v, s, rfl, h⟩, fun _ => Int.le_refl 0⟩
  puts w t hw ht := by
    obtain rfl : v = w := List.singleton_inj.mp hw
    cases h <;> (cases ht; rfl)

theorem failed {f : Failure} {out : Except Failure Int32 × Memory} (h : ∀ s, ¬ TellsText v s)
    (hout : out.1 = .error f) : PutsText buffer [v] out where
  succeeds := by
    rw [hout]
    constructor
    · intro hstatus
      exact absurd hstatus (Int.not_le.mpr f.expected_neg)
    · rintro ⟨w, s, hw, hs⟩
      obtain rfl : v = w := List.singleton_inj.mp hw
      exact absurd hs (h s)
  puts w s hw hs := by
    obtain rfl : v = w := List.singleton_inj.mp hw
    exact absurd hs (h s)

end PutsText

theorem putsText_readlink (srv : Server σ) (p : String) (buffer : Buffer) (state : σ) :
    Ensures (PutsText buffer) (Job.run srv.recorded (.readlink p buffer))
      { state := (state, []) } := by
  refine .call fun asked result next => .pure ?_
  cases result with
  | ok s => exact .told .readlink
  | error f =>
    refine .failed (fun s h => ?_) rfl
    cases h

theorem putsText_getpath (srv : Server σ) (p : String) (handle : Option UInt64) (buffer : Buffer)
    (state : σ) :
    Ensures (PutsText buffer) (Job.run srv.recorded (.getpath p handle buffer))
      { state := (state, []) } := by
  refine .call fun asked result next => .pure ?_
  cases result with
  | ok s => exact .told .getpath
  | error f =>
    refine .failed (fun s h => ?_) rfl
    cases h

/-- So does every request for a text whose arguments make sense. -/
theorem putsText_decode (srv : Server σ) {r : Request} {buffer : Buffer} (h : r.ForText buffer)
    {job : Job} (hdecode : r.decode = .ok job) (state : σ) :
    Ensures (PutsText buffer) (job.run srv.recorded) { state := (state, []) } := by
  cases h with
  | readlink =>
    obtain ⟨p, -, rfl⟩ := job_of_read hdecode
    exact putsText_readlink srv p buffer state
  | getpath =>
    obtain ⟨p, -, rfl⟩ := job_of_read hdecode
    exact putsText_getpath srv p _ buffer state

/-- What a request `ForText` leaves in its buffer.

    The request succeeds if and only if the implementation `TellsText`. Where the buffer is null,
    or has no bytes, it is as it was. Where it has some, it `ShowsText`: a text without a NUL is
    read from it as far as it goes with one byte left for the NUL; it ends within the buffer, and
    every byte after its end is as it was. -/
theorem serve_texts (srv : Server σ) {r : Request} {buffer : Buffer} (h : r.ForText buffer)
    (state : σ) :
    (0 ≤ (r.serve srv state).status ↔ ∃ v s, r.log srv state = [v] ∧ TellsText v s) ∧
    ∀ v s, r.log srv state = [v] → TellsText v s →
      (r.serve srv state).status = 0 ∧
      (buffer.bytes = [] → (r.serve srv state).memory = .buffer buffer) ∧
      ∀ old, buffer = .block old → old ≠ [] → 0 ∉ Text.bytes s →
        ∃ new, (r.serve srv state).memory = .buffer (.block new) ∧
          Buffer.ShowsText s old new := by
  cases hdecode : r.decode with
  | error e =>
    have hstatus : ¬ 0 ≤ (r.serve srv state).status := by
      rw [serve_of_undecoded srv hdecode, Int32.le_iff_toInt_le, e.toInt_status]
      exact Int.not_le.mpr e.expected_neg
    -- Nothing is asked where an argument is bad.
    have hlog : r.log srv state = [] := by
      rw [Request.log, serve_of_undecoded srv.recorded hdecode]
    rw [hlog]
    constructor
    · constructor
      · intro h
        exact absurd h hstatus
      · rintro ⟨v, s, hv, -⟩
        cases hv
    · intro v s hv
      cases hv
  | ok job =>
    obtain ⟨result, hputs, htold⟩ :=
      serve_ensures srv hdecode state (putsText_decode srv h hdecode state)
    rw [Int32.le_iff_toInt_le, htold]
    refine ⟨hputs.succeeds, fun v s hv hs => ?_⟩
    obtain ⟨rfl, hmemory⟩ := Prod.mk.inj (hputs.puts v s hv hs)
    rw [hmemory]
    refine ⟨Int32.toInt_inj.mp htold, ?_, ?_⟩
    · intro hnone
      rw [Buffer.putText_of_bytes_eq_nil hnone]
    · rintro old rfl hold hclean
      obtain ⟨new, hput, hshows⟩ := Buffer.showsText_putText hclean hold
      exact ⟨new, congrArg Memory.buffer hput, hshows⟩

/-- An implementation that answers every request for a text with the same one. -/
def teller (s : String) : Server Unit where
  fileSystem := ⟨fun _ c state =>
    match c with
    | .readlink _ | .getpath .. => .done (.ok s) state
    | c => .done c.unimplemented state⟩
  directIo := false
  caller := none
  clock := fun _ => .zero

/-- To have a link read into a buffer of four bytes. -/
def reading : Request :=
  .readlink (some [47, 97]) (.block [127, 127, 127, 127])

/-- Of a text of four bytes three are read, and of one of one byte all. -/
theorem serve_texts_teller :
    (reading.serve (teller "abcd") ()).memory = .buffer (.block [97, 98, 99, 0]) ∧
      (∃ new, (reading.serve (teller "abcd") ()).memory = .buffer (.block new) ∧
        Buffer.ShowsText "abcd" [127, 127, 127, 127] new) ∧
      (reading.serve (teller "x") ()).memory = .buffer (.block [120, 0, 127, 127]) := by
  have hlog : reading.log (teller "abcd") () = [⟨.readlink "/a", [], .ok "abcd"⟩] := by rfl
  have htold := (serve_texts (teller "abcd") (r := reading) .readlink ()).2 _ "abcd" hlog .readlink
  exact ⟨by rfl, htold.2.2 _ rfl (by decide) (by decide), by rfl⟩

end HostedFs
