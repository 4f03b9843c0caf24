import HostedFs.Proofs.Request.Answers
import HostedFs.Proofs.Request.Arguments
import HostedFs.Proofs.Time.Normal

/-! # Times that are set

    The native side gives a pair for each time that is to be set, or none at all. By its
    nanoseconds a pair can ask for the current time, or for no change. The implementation
    knows neither: it is given two stamps, and what is not to change is looked up before.

    * `RawTime.Becomes`: what a time becomes by a pair.
    * `SetsTimes`: the calls that are made, with the answer to the last of them.
    * `Server.StoresTimes`: the implementation tells the times that it was given.
    * `serve_times`: what follows for all pairs and implementations.
-/

namespace HostedFs

variable {σ : Type}

/-! ## Pairs -/

namespace RawTime

/-- What a time becomes by a pair, given the current time and, if that is known, what it
    was. The seconds beside a mark do not matter, and marks are told before anything is
    carried. -/
inductive Becomes (now : Timespec) (was : Option Timespec) (r : RawTime) : Timespec → Prop
  | now (marked : r.nsec = nowMark) : Becomes now was r now
  | kept {t : Timespec} (marked : r.nsec = omitMark) (known : was = some t) : Becomes now was r t
  | lost (marked : r.nsec = omitMark) (unknown : was = none) : Becomes now was r now
  | set {t : Timespec} (unmarked : r.nsec ≠ nowMark ∧ r.nsec ≠ omitMark)
      (carried : Timespec.Carried r.sec r.nsec t) : Becomes now was r t

variable {now t : Timespec} {was : Option Timespec} {r : RawTime}

/-- It becomes what the pair is resolved to. -/
theorem becomes_iff : r.Becomes now was t ↔ t = Job.resolveTime now was r.toUpdate := by
  constructor
  · intro h
    unfold toUpdate
    -- The marks are looked at in this order: now, then kept, then the time itself.
    cases h with
    | now marked => rw [if_pos marked, Job.resolveTime]
    | kept marked known => rw [marked, known, if_neg (by decide), if_pos rfl]; rfl
    | lost marked unknown => rw [marked, unknown, if_neg (by decide), if_pos rfl]; rfl
    | set unmarked carried =>
      rw [if_neg unmarked.1, if_neg unmarked.2]
      exact Timespec.carried_iff.mp carried
  · rintro rfl
    unfold toUpdate
    split
    next marked => exact .now marked
    next hnow =>
      split
      next marked =>
        cases was with
        | some t => exact .kept marked rfl
        | none => exact .lost marked rfl
      next homit => exact .set ⟨hnow, homit⟩ (Timespec.carried_ofParts r.sec r.nsec)

/-- If a time is not to be kept, it does not matter what it was. -/
theorem Becomes.change (h : r.Becomes now was t) (hchange : r.nsec ≠ omitMark)
    (was' : Option Timespec) : r.Becomes now was' t := by
  cases h with
  | now marked => exact .now marked
  | kept marked _ | lost marked _ => exact absurd marked hchange
  | set unmarked carried => exact .set unmarked carried

end RawTime

/-! ## Calls -/

/-- How the times of a file are set, from a state, if the clock shows this: by which calls,
    with which result, and with which state after them. -/
inductive SetsTimes (srv : Server σ) (p : String) (now : Timespec) (state : σ) :
    Option (RawTime × RawTime) → List Call → Except Failure Unit → σ → Prop
  /-- Without pairs both become the current time. -/
  | now {result : Except Failure Unit} {next : σ}
      (answered : srv.answer (.effect (.utimens p now now)) state = (result, next)) :
      SetsTimes srv p now state none [.effect (.utimens p now now)] result next
  /-- If neither is to be kept, nothing is looked up. -/
  | changed {x y : RawTime} {atime mtime : Timespec} {result : Except Failure Unit} {next : σ}
      (change : x.nsec ≠ RawTime.omitMark ∧ y.nsec ≠ RawTime.omitMark)
      (accessed : x.Becomes now none atime) (modified : y.Becomes now none mtime)
      (answered : srv.answer (.effect (.utimens p atime mtime)) state = (result, next)) :
      SetsTimes srv p now state (some (x, y)) [.effect (.utimens p atime mtime)] result next
  /-- Otherwise they are looked up first, -/
  | kept {x y : RawTime} {stat : Stat} {atime mtime : Timespec} {result : Except Failure Unit}
      {looked next : σ} (keep : x.nsec = RawTime.omitMark ∨ y.nsec = RawTime.omitMark)
      (told : srv.answer (.getattr p none) state = (.ok stat, looked))
      (accessed : x.Becomes now (some stat.atim) atime)
      (modified : y.Becomes now (some stat.mtim) mtime)
      (answered : srv.answer (.effect (.utimens p atime mtime)) looked = (result, next)) :
      SetsTimes srv p now state (some (x, y))
        [.getattr p none, .effect (.utimens p atime mtime)] result next
  /-- and if the answer is an error, they are not known. -/
  | lost {x y : RawTime} {e : Errno} {atime mtime : Timespec} {result : Except Failure Unit}
      {looked next : σ} (keep : x.nsec = RawTime.omitMark ∨ y.nsec = RawTime.omitMark)
      (untold : srv.answer (.getattr p none) state = (.error (.returned e), looked))
      (accessed : x.Becomes now none atime) (modified : y.Becomes now none mtime)
      (answered : srv.answer (.effect (.utimens p atime mtime)) looked = (result, next)) :
      SetsTimes srv p now state (some (x, y))
        [.getattr p none, .effect (.utimens p atime mtime)] result next
  /-- If the implementation breaks off instead, they are not set. -/
  | broken {x y : RawTime} {f : Failure} {next : σ}
      (keep : x.nsec = RawTime.omitMark ∨ y.nsec = RawTime.omitMark)
      (broke : srv.answer (.getattr p none) state = (.error f, next))
      (unanswered : ∀ e, f ≠ .returned e) :
      SetsTimes srv p now state (some (x, y)) [.getattr p none] (.error f) next

/-- To set times is one more call, and its result decides. -/
theorem utimens_set_ends {P : List Call → σ → Except Failure Int32 × Memory → Prop}
    (srv : Server σ) (p : String) (atime mtime : Timespec) {service : Service σ}
    (h : ∀ result next,
      srv.answer (.effect (.utimens p atime mtime)) service.state = (result, next) →
      P (service.calls ++ [.effect (.utimens p atime mtime)]) next (Job.done result, .nothing)) :
    Ends P (do return (Job.done (← srv.call (.effect (.utimens p atime mtime))), .nothing))
      service :=
  .call fun result next answered => .pure (h result next answered)

/-- The times are set in one of these ways, by what the clock shows first. -/
theorem utimens_ends (srv : Server σ) (p : String) (times : Option (RawTime × RawTime))
    (state : σ) :
    Ends (fun calls next out => ∃ result,
        SetsTimes srv p (srv.clock 0) state times calls result next ∧
          statusOf out.1 = statusOf (Job.done result))
      (Job.run srv (.utimens p (times.map fun (x, y) => (x.toUpdate, y.toUpdate)))) { state } := by
  cases times with
  | none =>
    refine .time (utimens_set_ends srv p _ _ fun result next answered => ?_)
    exact ⟨result, .now answered, rfl⟩
  | some times =>
    obtain ⟨x, y⟩ := times
    have hbecomes (r : RawTime) (was : Option Timespec) :
        r.Becomes (srv.clock 0) was (Job.resolveTime (srv.clock 0) was r.toUpdate) :=
      RawTime.becomes_iff.mpr rfl
    show Ends _ (Job.resolveTimes srv p x.toUpdate y.toUpdate >>= _) _
    unfold Job.resolveTimes
    rw [bind_assoc]
    refine .time ?_
    dsimp only
    -- Whether anything is looked up hangs on the marks alone.
    by_cases hkeep : x.toUpdate = .omit ∨ y.toUpdate = .omit
    · have keep := hkeep.imp RawTime.toUpdate_eq_omit_iff.mp RawTime.toUpdate_eq_omit_iff.mp
      rw [if_pos hkeep, bind_assoc]
      refine .call fun result looked hlooked => ?_
      cases result with
      | ok stat =>
        refine utimens_set_ends srv p _ _ fun result next answered => ⟨result, ?_, rfl⟩
        exact .kept keep hlooked (hbecomes _ _) (hbecomes _ _) answered
      | error f =>
        cases f with
        | returned e =>
          refine utimens_set_ends srv p _ _ fun result next answered => ⟨result, ?_, rfl⟩
          exact .lost keep hlooked (hbecomes _ _) (hbecomes _ _) answered
        | raised e => exact .pure ⟨_, .broken keep hlooked nofun, rfl⟩
        | panicked text => exact .pure ⟨_, .broken keep hlooked nofun, rfl⟩
    · rw [if_neg hkeep]
      rw [RawTime.toUpdate_eq_omit_iff, RawTime.toUpdate_eq_omit_iff] at hkeep
      refine utimens_set_ends srv p _ _ fun result next answered => ⟨result, ?_, rfl⟩
      exact .changed (not_or.mp hkeep) (hbecomes _ _) (hbecomes _ _) answered

/-! ## Implementations that store times -/

/-- The implementation has a file with these times. -/
def Server.Tells (srv : Server σ) (p : String) (state : σ) (atime mtime : Timespec) : Prop :=
  ∃ stat next, srv.answer (.getattr p none) state = (.ok stat, next) ∧
    stat.atim = atime ∧ stat.mtim = mtime

/-- Times that the implementation has set are the ones that it tells. -/
def Server.StoresTimes (srv : Server σ) (p : String) : Prop :=
  ∀ state atime mtime next,
    srv.answer (.effect (.utimens p atime mtime)) state = (.ok (), next) →
      srv.Tells p next atime mtime

/-- The file has these times at the end, unless the implementation was asked to set them
    and failed. -/
inductive Reaches (srv : Server σ) (p : String) (atime mtime : Timespec) : Int → σ → Prop
  | stored {next : σ} (tells : srv.Tells p next atime mtime) : Reaches srv p atime mtime 0 next
  | failed {before next : σ} {f : Failure}
      (answered : srv.answer (.effect (.utimens p atime mtime)) before = (.error f, next)) :
      Reaches srv p atime mtime f.expected next

theorem Reaches.tells {srv : Server σ} {p : String} {atime mtime : Timespec} {status : Int}
    {next : σ} (h : Reaches srv p atime mtime status next) (hzero : status = 0) :
    srv.Tells p next atime mtime := by
  cases h with
  | stored tells => exact tells
  | @failed _ _ f _ => exact absurd hzero (Int.ne_of_lt f.expected_neg)

theorem Server.StoresTimes.reaches {srv : Server σ} {p : String} (stores : srv.StoresTimes p)
    {before next : σ} {atime mtime : Timespec} {result : Except Failure Unit}
    (answered : srv.answer (.effect (.utimens p atime mtime)) before = (result, next)) :
    Reaches srv p atime mtime (statusOf (Job.done result)) next := by
  cases result with
  | ok done => exact .stored (stores _ _ _ _ answered)
  | error f => exact .failed answered

/-- By pairs, each time of a file becomes what is asked for. -/
theorem SetsTimes.reaches {srv : Server σ} {p : String} (stores : srv.StoresTimes p)
    {now was_atime was_mtime : Timespec} {state next : σ} {x y : RawTime} {calls : List Call}
    {result : Except Failure Unit} (tells : srv.Tells p state was_atime was_mtime)
    (h : SetsTimes srv p now state (some (x, y)) calls result next) :
    ∃ atime mtime, x.Becomes now (some was_atime) atime ∧ y.Becomes now (some was_mtime) mtime ∧
      Reaches srv p atime mtime (statusOf (Job.done result)) next := by
  obtain ⟨stat, looked, htold, rfl, rfl⟩ := tells
  -- The times are looked up in the state in which they were told, so this finds the same.
  cases h with
  | changed change accessed modified answered =>
    exact ⟨_, _, accessed.change change.1 _, modified.change change.2 _, stores.reaches answered⟩
  | kept _ told accessed modified answered =>
    cases htold.symm.trans told
    exact ⟨_, _, accessed, modified, stores.reaches answered⟩
  | lost _ untold => cases htold.symm.trans untold
  | broken _ broke => cases htold.symm.trans broke

/-- A `utimens` request, whatever the implementation does.

    The clock is looked at once, and the times that the file has are looked up only if one of them
    is to be kept (`SetsTimes`). Unless the implementation breaks off then, it is asked once to
    set the times, and the status is that of the last call. Where a server `StoresTimes`, a time
    that is to be kept stays and the other one `Becomes` what is asked for. -/
theorem serve_times (srv : Server σ) {path : NativeText} {p : String} (spelled : path.Spells p)
    (times : Option (RawTime × RawTime)) (state : σ) :
    (∃ result,
      SetsTimes srv p (srv.clock 0) state times
        ((Request.utimens path times).serve srv state).calls result
        ((Request.utimens path times).serve srv state).state ∧
      ((Request.utimens path times).serve srv state).status.toInt = statusOf (Job.done result)) ∧
    (srv.StoresTimes p → ∀ x y was_atime was_mtime, times = some (x, y) →
      srv.Tells p state was_atime was_mtime →
      ∃ atime mtime, x.Becomes (srv.clock 0) (some was_atime) atime ∧
        y.Becomes (srv.clock 0) (some was_mtime) mtime ∧
        Reaches srv p atime mtime ((Request.utimens path times).serve srv state).status.toInt
          ((Request.utimens path times).serve srv state).state) := by
  have hdecode : (Request.utimens path times).decode =
      .ok (.utimens p (times.map fun (x, y) => (x.toUpdate, y.toUpdate))) :=
    NativeText.read_bind spelled _
  obtain ⟨out, ⟨result, hsets, hout⟩, hstatus⟩ :=
    serve_ends srv hdecode state (utimens_ends srv p times state)
  rw [hout] at hstatus
  refine ⟨⟨result, hsets, hstatus⟩, ?_⟩
  rintro stores x y was_atime was_mtime rfl tells
  rw [hstatus]
  exact hsets.reaches stores tells

/-- A server whose implementation has one file and keeps its times. The clock goes on
    by a second from look to look. -/
def timekeeper : Server (Timespec × Timespec) where
  fileSystem.respond
    | _, .getattr .., times => .done (.ok { atim := times.1, mtim := times.2 }) times
    | _, .effect (.utimens _ atime mtime), _ => .done (.ok ()) (atime, mtime)
    | _, c, times => .done c.unimplemented times
  directIo := false
  caller := none
  clock looks := ⟨Int64.ofNat looks, 0⟩

theorem storesTimes_timekeeper (p : String) : timekeeper.StoresTimes p := by
  intro times atime mtime next answered
  cases answered
  exact ⟨_, _, rfl, rfl, rfl⟩

/-- To have the modification time of a file set to a nanosecond before the ninth second. -/
def touching : Request :=
  .utimens (some [47, 97]) (some (⟨0, RawTime.omitMark⟩, ⟨9, -1⟩))

/-- The access time stays, and the nanosecond is borrowed from the seconds. -/
theorem serve_times_touching :
    NativeText.Spells (some [47, 97]) "/a" ∧ timekeeper.StoresTimes "/a" ∧
      timekeeper.Tells "/a" (⟨5, 6⟩, ⟨7, 8⟩) ⟨5, 6⟩ ⟨7, 8⟩ ∧
      timekeeper.Tells "/a" (touching.serve timekeeper (⟨5, 6⟩, ⟨7, 8⟩)).state
        ⟨5, 6⟩ ⟨8, 999999999⟩ := by
  have hspelled : NativeText.Spells (some [47, 97]) "/a" := ⟨[47, 97], rfl, by decide⟩
  have htells : timekeeper.Tells "/a" (⟨5, 6⟩, ⟨7, 8⟩) ⟨5, 6⟩ ⟨7, 8⟩ := ⟨_, _, rfl, rfl, rfl⟩
  have hstatus : (touching.serve timekeeper (⟨5, 6⟩, ⟨7, 8⟩)).status.toInt = 0 := by decide
  obtain ⟨atime, mtime, haccessed, hmodified, hreaches⟩ :=
    (serve_times timekeeper hspelled (some (⟨0, RawTime.omitMark⟩, ⟨9, -1⟩)) (⟨5, 6⟩, ⟨7, 8⟩)).2
      (storesTimes_timekeeper "/a") _ _ _ _ rfl htells
  obtain rfl := RawTime.becomes_iff.mp haccessed
  obtain rfl := RawTime.becomes_iff.mp hmodified
  exact ⟨hspelled, storesTimes_timekeeper "/a", htells, hreaches.tells hstatus⟩

/-- Two marks of the current time stand for one look at the clock. -/
example :
    let request := Request.utimens (some [47, 97])
      (some (⟨1, RawTime.nowMark⟩, ⟨2, RawTime.nowMark⟩))
    (request.serve timekeeper (⟨5, 6⟩, ⟨7, 8⟩)).state = (⟨0, 0⟩, ⟨0, 0⟩) := by
  decide

end HostedFs
