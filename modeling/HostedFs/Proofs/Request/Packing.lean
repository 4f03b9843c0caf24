import HostedFs.Proofs.Request.Serving

/-! # Packing names

    The names of a list are offered one by one, and each is put into a buffer with a
    NUL after it. As long as none is refused they stand one after the other.

    * `Exchange.Offers`: what an implementation offers as long as nothing is refused.
    * `Buffer.Rewritten`: the same buffer with other bytes.
    * `packed`: names as they stand in a buffer.
    * `buffer_addAll_of_room`: what names make of a buffer.
    * `run_add_of_room`, `run_add_of_short`: all that are offered are packed, or one is
      refused.
-/

namespace HostedFs

variable {σ : Type}

/-! ## Offers -/

namespace Exchange

variable {Q R τ : Type}

/-- An exchange offers a list, one item after the other, and ends with a result. Once an
    item is refused it may stop, go on with the list, or offer whatever it likes, but it
    ends with the same result. -/
inductive Offers : Exchange σ Q R → List Q → R → Prop
  | done (result : R) (state : σ) : Offers (.done result state) [] result
  | ask {question : Q} {state : σ} {resume : Bool → σ → Exchange σ Q R} {rest : List Q}
      {result : R} (accepted : Offers (resume true state) rest result)
      (refused : ∀ told other final,
        (resume false state).Plays told other final → other = result) :
      Offers (.ask question state resume) (question :: rest) result

/-- After a question, an exchange goes on with the answer. -/
theorem run_ask (answer : Q → τ → Bool × τ) (question : Q) (state : σ)
    (resume : Bool → σ → Exchange σ Q R) (t : τ) :
    (ask question state resume).run answer t =
      (resume (answer question t).1 state).run answer (answer question t).2 :=
  rfl

/-- An exchange that can end with one result only does so. -/
theorem result_run_of_plays {x : Exchange σ Q R} {result : R}
    (h : ∀ told other final, x.Plays told other final → other = result)
    (answer : Q → τ → Bool × τ) (t : τ) : (x.run answer t).1 = result := by
  induction x generalizing t with
  | done other state => exact h [] other state (.done other state)
  | ask question state resume ih =>
    rw [run_ask]
    refine ih _ _ ?_ _
    intro told other final hplays
    exact h _ other final (.ask hplays)

/-- Whatever is answered to the offers, the result is the same. -/
theorem Offers.result_run {x : Exchange σ Q R} {items : List Q} {result : R}
    (h : x.Offers items result) (answer : Q → τ → Bool × τ) (t : τ) :
    (x.run answer t).1 = result := by
  induction h generalizing t with
  | done result state => rfl
  | @ask question state resume rest result accepted refused ih =>
    rw [run_ask]
    cases (answer question t).1 with
    | true => exact ih _
    | false => exact result_run_of_plays refused answer _

end Exchange

/-! ## Buffers -/

namespace Buffer

/-- The buffer with other bytes in it. There are as many of them. -/
inductive Rewritten : Buffer → Buffer → Prop
  | null (size : Nat) : Rewritten (.null size) (.null size)
  | block {old new : List UInt8} (same : new.length = old.length) :
      Rewritten (.block old) (.block new)

namespace Rewritten

theorem refl (b : Buffer) : Rewritten b b := by
  cases b with
  | null size => exact .null size
  | block bytes => exact .block rfl

theorem trans {a b c : Buffer} (h : Rewritten a b) (h' : Rewritten b c) : Rewritten a c := by
  cases h with
  | null size => exact h'
  | block same =>
    cases h' with
    | block same' => exact .block (same'.trans same)

theorem put (b : Buffer) (offset : Nat) (new : List UInt8) : Rewritten b (b.put offset new) := by
  cases b with
  | null size => exact .null size
  | block bytes => exact .block (length_overwrite bytes offset new)

end Rewritten

/-- Bytes for which there is room are all put. -/
theorem overwrite_of_le {old new : List UInt8} {offset : Nat}
    (h : offset + new.length ≤ old.length) :
    overwrite old offset new = old.take offset ++ new ++ old.drop (offset + new.length) := by
  have hall : new.take (old.length - offset) = new := List.take_of_length_le (by omega)
  rw [overwrite, hall]

/-- Bytes put after others are put together with them. -/
theorem overwrite_overwrite {old u v : List UInt8} {offset : Nat}
    (h : offset + (u ++ v).length ≤ old.length) :
    overwrite (overwrite old offset u) (offset + u.length) v = overwrite old offset (u ++ v) := by
  have hsum : (u ++ v).length = u.length + v.length := List.length_append
  have hfirst : overwrite old offset u = old.take offset ++ u ++ old.drop (offset + u.length) :=
    overwrite_of_le (by omega)
  have hfront : (old.take offset ++ u).length = offset + u.length := by
    rw [List.length_append, List.length_take]
    omega
  have hroom : offset + u.length + v.length ≤ (overwrite old offset u).length := by
    rw [length_overwrite]
    omega
  have htake : (overwrite old offset u).take (offset + u.length) = old.take offset ++ u := by
    rw [hfirst, List.take_left' hfront]
  have hdrop : (overwrite old offset u).drop (offset + u.length + v.length) =
      old.drop (offset + (u ++ v).length) := by
    rw [hfirst, ← hfront, List.drop_length_add_append, List.drop_drop, hfront, hsum,
      Nat.add_assoc]
  rw [overwrite_of_le hroom, htake, hdrop, overwrite_of_le h, List.append_assoc (old.take offset)]

theorem put_put {b : Buffer} {u v : List UInt8} {offset : Nat}
    (h : offset + (u ++ v).length ≤ b.bytes.length) :
    (b.put offset u).put (offset + u.length) v = b.put offset (u ++ v) := by
  cases b with
  | null size => rfl
  | block bytes => exact congrArg Buffer.block (overwrite_overwrite h)

/-- Bytes put at the front are followed by what was there. -/
theorem put_zero {b : Buffer} {new : List UInt8} (h : new.length ≤ b.bytes.length) :
    b.put 0 new = b.withBytes (new ++ b.bytes.drop new.length) := by
  have hfront : overwrite b.bytes 0 new = new ++ b.bytes.drop new.length := by
    rw [overwrite_of_le (by omega), List.take_zero, List.nil_append, Nat.zero_add]
  rw [put, hfront]

end Buffer

/-! ## Names -/

/-- The names of a list as they stand in a buffer. -/
def packed (names : List String) : List UInt8 :=
  names.flatMap fun name => Text.bytes name ++ [0]

theorem packed_cons (name : String) (names : List String) :
    packed (name :: names) = Text.bytes name ++ [0] ++ packed names :=
  rfl

theorem length_packed (names : List String) :
    (packed names).length = Request.packedSize names := by
  induction names with
  | nil => rfl
  | cons name names ih =>
    rw [packed_cons, List.length_append, List.length_append, ih]
    rfl

namespace Packing

theorem addAll_cons (name : String) (names : List String) (p : Packing) :
    addAll (name :: names) p = addAll names (add name p).2 :=
  rfl

/-- Without room to be filled, every name is taken and counted. -/
theorem add_of_size_eq_zero {p : Packing} (h : p.buffer.size = 0) (name : String) :
    add name p = (true, { p with used := p.used + ((Text.bytes name).length + 1) }) := by
  simp [add, h]

/-- A name for which there is room is taken. -/
theorem add_of_room {p : Packing} (h : p.buffer.size ≠ 0) {name : String}
    (room : p.used + ((Text.bytes name).length + 1) ≤ p.buffer.bytes.length) :
    add name p = (true, { p with
      buffer := p.buffer.put p.used (Text.bytes name ++ [0])
      used := p.used + ((Text.bytes name).length + 1) }) := by
  simp [add, h, Nat.not_lt.mpr room]

/-- Another one is refused, and that is not forgotten. -/
theorem add_of_short {p : Packing} (h : p.buffer.size ≠ 0) {name : String}
    (short : p.buffer.bytes.length < p.used + ((Text.bytes name).length + 1)) :
    add name p = (false, { p with overflow := true }) := by
  simp [add, h, short]

theorem overflow_add {p : Packing} (h : p.overflow = true) (name : String) :
    (add name p).2.overflow = true := by
  unfold add
  dsimp only
  split
  · exact h
  · split
    · rfl
    · exact h

theorem overflow_addAll_of_overflow {p : Packing} (h : p.overflow = true) (names : List String) :
    (addAll names p).overflow = true := by
  induction names generalizing p with
  | nil => exact h
  | cons name names ih => exact ih (overflow_add h name)

theorem rewritten_add (name : String) (p : Packing) :
    p.buffer.Rewritten (add name p).2.buffer := by
  unfold add
  dsimp only
  split
  · exact .refl _
  · split
    · exact .refl _
    · exact .put _ _ _

/-- Whatever names are packed, the buffer has as many bytes as before. -/
theorem rewritten_addAll (names : List String) (p : Packing) :
    p.buffer.Rewritten (addAll names p).buffer := by
  induction names generalizing p with
  | nil => exact .refl _
  | cons name names ih => exact (rewritten_add name p).trans (ih _)

/-- Names that are only counted leave the buffer alone. -/
theorem buffer_addAll_of_size_eq_zero {p : Packing} (h : p.buffer.size = 0)
    (names : List String) : (addAll names p).buffer = p.buffer := by
  induction names generalizing p with
  | nil => rfl
  | cons name names ih =>
    rw [addAll_cons, add_of_size_eq_zero h]
    exact ih h

/-- Names for which there is room stand one after the other. -/
theorem buffer_addAll_of_room {p : Packing} (h : p.buffer.size ≠ 0) {names : List String}
    (room : p.used + Request.packedSize names ≤ p.buffer.bytes.length) :
    (addAll names p).buffer = p.buffer.put p.used (packed names) := by
  induction names generalizing p with
  | nil =>
    have hnone : Buffer.overwrite p.buffer.bytes p.used [] = p.buffer.bytes := by
      simp [Buffer.overwrite]
    have hsame : p.buffer.withBytes p.buffer.bytes = p.buffer := by cases p.buffer <;> rfl
    show p.buffer = p.buffer.withBytes (Buffer.overwrite p.buffer.bytes p.used [])
    rw [hnone, hsame]
  | cons name names ih =>
    have hsum : Request.packedSize (name :: names) =
        (Text.bytes name).length + 1 + Request.packedSize names := rfl
    have hlength : (Text.bytes name ++ [0]).length = (Text.bytes name).length + 1 := by simp
    have hall : p.used + (packed (name :: names)).length ≤ p.buffer.bytes.length := by
      rw [length_packed]
      exact room
    -- Two writes next to each other are one write of both.
    have hput : (p.buffer.put p.used (Text.bytes name ++ [0])).put
        (p.used + ((Text.bytes name).length + 1)) (packed names) =
        p.buffer.put p.used (packed (name :: names)) := by
      rw [← hlength]
      exact Buffer.put_put hall
    rw [addAll_cons, add_of_room h (by omega), ← hput]
    apply ih
    · rw [Buffer.size_put]
      exact h
    · rw [Buffer.length_bytes_put]
      dsimp only
      omega

variable {R : Type} {x : Exchange σ String R} {names : List String} {result : R}

/-- What is left of a packing shows all names that were offered to it. -/
theorem run_add (x : Exchange σ String R) (p : Packing) :
    (x.run add p).2.2 = addAll (x.asked add p) p :=
  x.run_answerer add p

/-- Where there is room for all names that an implementation has, it offers all. -/
theorem run_add_of_room (h : x.Offers names result) {p : Packing}
    (room : p.buffer.size = 0 ∨ p.used + Request.packedSize names ≤ p.buffer.bytes.length) :
    (x.run add p).2.2 = addAll names p := by
  induction h generalizing p with
  | done result state => rfl
  | @ask name state resume rest result accepted refused ih =>
    have hsum : Request.packedSize (name :: rest) =
        (Text.bytes name).length + 1 + Request.packedSize rest := rfl
    rw [Exchange.run_ask, addAll_cons]
    by_cases hsize : p.buffer.size = 0
    · rw [add_of_size_eq_zero hsize]
      exact ih (.inl hsize)
    · have hall := room.resolve_left hsize
      rw [add_of_room hsize (by omega)]
      refine ih (.inr ?_)
      rw [Buffer.length_bytes_put]
      dsimp only
      omega

/-- Otherwise one is refused, whatever it does then. -/
theorem run_add_of_short (h : x.Offers names result) {p : Packing} (hsize : p.buffer.size ≠ 0)
    (hused : p.used ≤ p.buffer.bytes.length)
    (short : p.buffer.bytes.length < p.used + Request.packedSize names) :
    (x.run add p).2.2.overflow = true := by
  induction h generalizing p with
  -- Induction over the offers: the first that does not fit is refused, and nothing undoes that.
  | done result state =>
    have hnone : Request.packedSize [] = 0 := rfl
    omega
  | @ask name state resume rest result accepted refused ih =>
    have hsum : Request.packedSize (name :: rest) =
        (Text.bytes name).length + 1 + Request.packedSize rest := rfl
    rw [Exchange.run_ask]
    by_cases hfits : p.used + ((Text.bytes name).length + 1) ≤ p.buffer.bytes.length
    · rw [add_of_room hsize hfits]
      refine ih ?_ ?_ ?_
      · rw [Buffer.size_put]
        exact hsize
      · rw [Buffer.length_bytes_put]
        exact hfits
      · rw [Buffer.length_bytes_put]
        dsimp only
        omega
    · rw [add_of_short hsize (Nat.not_le.mp hfits), run_add]
      exact overflow_addAll_of_overflow rfl _

end Packing

end HostedFs
