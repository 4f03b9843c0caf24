import HostedFs.Proofs.Signal.Bridge
import Mathlib.Data.List.Induction
import Mathlib.Data.Set.Card

/-! # Sharing the bridge

    Any number of threads register with one bridge and drop their registrations
    again. Each takes the bridge's lock, does its work and gives the lock back,
    and steps of the others, signals and reading listeners may fall anywhere
    between. Whoever else sets what the process does with the signals does so
    only while nobody listens.

    * `Sharing.step`, `Move`: what one step does.
    * `run_induction`: what every step keeps holds after a run.
    * `Linked`, `linked_run`: registrations and slots belong together.
-/

namespace HostedFs.Signal

/-! ## Steps -/

/-- How far a registration has come. -/
inductive Stage
  /-- It is asked for; the flag says that the lock was taken for it. -/
  | registering (holding : Bool)
  /-- It was refused. -/
  | refused (e : RegisterError)
  /-- It is there, with a slot of its own. -/
  | live (slot : Nat)
  /-- It is being dropped; the flag says that the lock was taken for it. -/
  | dropping (slot : Nat) (holding : Bool)
  /-- It was dropped. -/
  | gone
  deriving DecidableEq, Repr

/-- The slot of a registration that is there. -/
def Stage.slot? : Stage → Option Nat
  | .live slot | .dropping slot _ => some slot
  | _ => none

/-- The lock was taken for the registration. -/
def Stage.holding : Stage → Bool
  | .registering holding | .dropping _ holding => holding
  | _ => false

/-- A bridge with its lock and the registrations asked for so far, each under a
    number by which its slot knows it, too. -/
structure Sharing where
  bridge : Bridge Nat := {}
  /-- The registration for which the lock was taken. -/
  lock : Option Nat := none
  stages : Nat → Option Stage := fun _ => none

/-- A step of the registration with a number, or of somebody else. -/
inductive Sharing.Label
  /-- A registration is asked for. -/
  | begin (n : Nat)
  /-- The lock is taken for it. -/
  | lock (n : Nat)
  /-- It is made, unless the system refuses, and the lock given back. -/
  | register (n : Nat) (refusal : Signal → Option Errno)
  /-- Its owner drops it. -/
  | drop (n : Nat)
  /-- Its slot is taken back, and the lock given back. -/
  | unregister (n : Nat)
  /-- A signal is raised. -/
  | raise (s : Signal)
  /-- Its owner reads signals. -/
  | read (n : Nat)
  /-- Somebody else sets what the process does with the signals. -/
  | assign (d : Dispositions)

namespace Sharing

/-- A bridge that nobody has used, in a process that does as told with signals. -/
def start (d : Dispositions) : Sharing :=
  { bridge := { dispositions := d } }

/-- The same with one registration come further. -/
def put (s : Sharing) (n : Nat) (stage : Stage) : Sharing :=
  { s with stages := fun m => if m = n then some stage else s.stages m }

/-- The same with another bridge and the lock given back. -/
def finish (s : Sharing) (bridge : Bridge Nat) : Sharing :=
  { s with bridge, lock := none }

/-- The state after a step, if the step is possible. -/
def step (s : Sharing) : Label → Option Sharing
  | .begin n =>
    match s.stages n with
    | none => some (s.put n (.registering false))
    | some _ => none
  | .lock n =>
    match s.lock, s.stages n with
    | none, some (.registering false) => some ({ s with lock := some n }.put n (.registering true))
    | none, some (.dropping slot false) =>
      some ({ s with lock := some n }.put n (.dropping slot true))
    | _, _ => none
  | .register n refusal =>
    match s.stages n with
    | some (.registering true) =>
      match s.bridge.register n refusal with
      | (bridge, .ok slot) => some ((s.finish bridge).put n (.live slot))
      | (bridge, .error e) => some ((s.finish bridge).put n (.refused e))
    | _ => none
  | .drop n =>
    match s.stages n with
    | some (.live slot) => some (s.put n (.dropping slot false))
    | _ => none
  | .unregister n =>
    match s.stages n with
    | some (.dropping slot true) => some ((s.finish (s.bridge.unregister slot)).put n .gone)
    | _ => none
  | .raise signal =>
    if s.bridge.handles signal then some { s with bridge := s.bridge.deliver signal } else some s
  | .read n =>
    match s.stages n with
    | some (.live slot) => some { s with bridge := s.bridge.read slot }
    | _ => none
  | .assign d =>
    if s.lock = none ∧ s.bridge.active = 0 ∧ d.Foreign then
      some { s with bridge := { s.bridge with dispositions := d } }
    else none

/-- The state after a sequence of steps, if each is possible in its turn. -/
def run (s : Sharing) (labels : List Label) : Option Sharing :=
  labels.foldlM step s

@[simp] theorem put_bridge (s : Sharing) (n : Nat) (stage : Stage) :
    (s.put n stage).bridge = s.bridge :=
  rfl

@[simp] theorem put_lock (s : Sharing) (n : Nat) (stage : Stage) :
    (s.put n stage).lock = s.lock :=
  rfl

@[simp] theorem put_stages_self (s : Sharing) (n : Nat) (stage : Stage) :
    (s.put n stage).stages n = some stage :=
  if_pos rfl

theorem put_stages_ne (s : Sharing) {n m : Nat} (stage : Stage) (h : m ≠ n) :
    (s.put n stage).stages m = s.stages m :=
  if_neg h

/-! ## Moves -/

/-- A step and what it does, in each of the ways that it can go. -/
inductive Move : Sharing → Label → Sharing → Prop
  | begin {s : Sharing} {n : Nat} (new : s.stages n = none) :
      Move s (.begin n) (s.put n (.registering false))
  | lockToRegister {s : Sharing} {n : Nat} (free : s.lock = none)
      (h : s.stages n = some (.registering false)) :
      Move s (.lock n) ({ s with lock := some n }.put n (.registering true))
  | lockToDrop {s : Sharing} {n slot : Nat} (free : s.lock = none)
      (h : s.stages n = some (.dropping slot false)) :
      Move s (.lock n) ({ s with lock := some n }.put n (.dropping slot true))
  | register {s : Sharing} {n slot : Nat} {refusal : Signal → Option Errno} {bridge : Bridge Nat}
      (h : s.stages n = some (.registering true))
      (done : s.bridge.register n refusal = (bridge, .ok slot)) :
      Move s (.register n refusal) ((s.finish bridge).put n (.live slot))
  | refuse {s : Sharing} {n : Nat} {e : RegisterError} {refusal : Signal → Option Errno}
      {bridge : Bridge Nat} (h : s.stages n = some (.registering true))
      (done : s.bridge.register n refusal = (bridge, .error e)) :
      Move s (.register n refusal) ((s.finish bridge).put n (.refused e))
  | drop {s : Sharing} {n slot : Nat} (h : s.stages n = some (.live slot)) :
      Move s (.drop n) (s.put n (.dropping slot false))
  | unregister {s : Sharing} {n slot : Nat} (h : s.stages n = some (.dropping slot true)) :
      Move s (.unregister n) ((s.finish (s.bridge.unregister slot)).put n .gone)
  | raise {s : Sharing} {signal : Signal} (handled : s.bridge.handles signal = true) :
      Move s (.raise signal) { s with bridge := s.bridge.deliver signal }
  | ignore {s : Sharing} {signal : Signal} (unhandled : s.bridge.handles signal = false) :
      Move s (.raise signal) s
  | read {s : Sharing} {n slot : Nat} (h : s.stages n = some (.live slot)) :
      Move s (.read n) { s with bridge := s.bridge.read slot }
  | assign {s : Sharing} {d : Dispositions} (free : s.lock = none) (idle : s.bridge.active = 0)
      (foreign : d.Foreign) :
      Move s (.assign d) { s with bridge := { s.bridge with dispositions := d } }

theorem step_eq_some_iff {s s' : Sharing} {label : Label} :
    s.step label = some s' ↔ Move s label s' := by
  constructor
  · -- The guards that `step` checks for a label are the hypotheses of its moves.
    intro h
    cases label with
    | begin n =>
      simp only [step] at h
      split at h
      next new =>
        cases h
        exact .begin new
      · cases h
    | lock n =>
      simp only [step] at h
      split at h
      next free hn =>
        cases h
        exact .lockToRegister free hn
      next free hn =>
        cases h
        exact .lockToDrop free hn
      · cases h
    | register n refusal =>
      simp only [step] at h
      split at h
      next hn =>
        split at h
        next done =>
          cases h
          exact .register hn done
        next done =>
          cases h
          exact .refuse hn done
      · cases h
    | drop n =>
      simp only [step] at h
      split at h
      next hn =>
        cases h
        exact .drop hn
      · cases h
    | unregister n =>
      simp only [step] at h
      split at h
      next hn =>
        cases h
        exact .unregister hn
      · cases h
    | raise signal =>
      simp only [step] at h
      split at h
      next handled =>
        cases h
        exact .raise handled
      next unhandled =>
        cases h
        exact .ignore (Bool.not_eq_true _ ▸ unhandled)
    | read n =>
      simp only [step] at h
      split at h
      next hn =>
        cases h
        exact .read hn
      · cases h
    | assign d =>
      simp only [step] at h
      split at h
      next hd =>
        cases h
        exact .assign hd.1 hd.2.1 hd.2.2
      · cases h
  · intro h
    cases h with
    | begin new => simp [step, new]
    | lockToRegister free h => simp [step, free, h]
    | lockToDrop free h => simp [step, free, h]
    | register h done => simp [step, h, done]
    | refuse h done => simp [step, h, done]
    | drop h => simp [step, h]
    | unregister h => simp [step, h]
    | raise handled => simp [step, handled]
    | ignore unhandled => simp [step, unhandled]
    | read h => simp [step, h]
    | assign free idle foreign => simp [step, free, idle, foreign]

/-! ## Runs -/

@[simp] theorem run_nil (s : Sharing) : s.run [] = some s :=
  rfl

/-- One more step at the end of a run. -/
theorem run_concat {s s' : Sharing} {labels : List Label} {label : Label} :
    s.run (labels ++ [label]) = some s' ↔
      ∃ v, s.run labels = some v ∧ Move v label s' := by
  simp [run, List.foldlM_append, Option.bind_eq_some_iff, step_eq_some_iff]

/-- What holds at the start of a run, and is kept by one more step, holds at its
    end. -/
theorem run_induction {s₀ : Sharing} {P : List Label → Sharing → Prop} (start : P [] s₀)
    (next : ∀ labels s label s', s₀.run labels = some s → P labels s → Move s label s' →
      P (labels ++ [label]) s')
    {labels : List Label} {s : Sharing} (h : s₀.run labels = some s) : P labels s := by
  induction labels using List.reverseRecOn generalizing s with
  | nil =>
    cases h
    exact start
  | append_singleton labels label ih =>
    obtain ⟨v, hv, hmove⟩ := run_concat.mp h
    exact next labels v label s hv (ih hv) hmove

/-! ## Registrations and slots -/

/-- The registration is there, and owns the slot. -/
def Owns (s : Sharing) (n slot : Nat) : Prop :=
  (s.stages n).bind Stage.slot? = some slot

/-- The numbers of the registrations that are there. -/
def present (s : Sharing) : Set Nat :=
  { n | ∃ slot, s.Owns n slot }

/-- Registrations and slots belong together, and the lock tells for whom it was
    taken. -/
structure Linked (d : Dispositions) (s : Sharing) : Prop where
  sound : s.bridge.Sound d
  foreign : d.Foreign
  owner_iff : ∀ n slot, s.Owns n slot ↔ s.bridge.ownerAt? slot = some n
  finite : s.present.Finite
  count : s.present.ncard = s.bridge.active
  lock_iff : ∀ n, (∃ stage, s.stages n = some stage ∧ stage.holding = true) ↔ s.lock = some n

theorem linked_start {d : Dispositions} (hd : d.Foreign) : Linked d (start d) where
  sound := Bridge.sound_start d
  foreign := hd
  owner_iff n slot := by
    constructor
    · intro h
      cases h
    · intro h
      obtain ⟨wake, hwake, -⟩ := Bridge.ownerAt?_eq_some.mp h
      have hmem := List.mem_of_getElem? hwake
      simp [start] at hmem
  finite := by simp [present, Owns, start]
  count := by simp [present, Owns, start]
  lock_iff n := by simp [start]

@[simp] theorem owns_finish {s : Sharing} {bridge : Bridge Nat} {n slot : Nat} :
    (s.finish bridge).Owns n slot ↔ s.Owns n slot :=
  Iff.rfl

theorem owns_put_self {s : Sharing} {n slot : Nat} {stage : Stage} :
    (s.put n stage).Owns n slot ↔ stage.slot? = some slot := by
  simp [Owns]

theorem owns_put_ne {s : Sharing} {n m slot : Nat} {stage : Stage} (h : m ≠ n) :
    (s.put n stage).Owns m slot ↔ s.Owns m slot := by
  simp [Owns, put_stages_ne _ _ h]

/-- A registration that comes further, with the slot that it has. -/
theorem owns_put_same {s : Sharing} {n : Nat} {stage : Stage}
    (h : (s.stages n).bind Stage.slot? = stage.slot?) (m slot : Nat) :
    (s.put n stage).Owns m slot ↔ s.Owns m slot := by
  by_cases hm : m = n
  · subst hm
    rw [owns_put_self, Owns, h]
  · exact owns_put_ne hm

/-- What is known of the lock after it changed hands by a step of one registration. -/
theorem holding_put {s s' : Sharing} {n : Nat} {stage : Stage}
    (hlock : ∀ n, (∃ stage, s.stages n = some stage ∧ stage.holding = true) ↔ s.lock = some n)
    (hstages : s'.stages = (s.put n stage).stages)
    (hself : stage.holding = true ↔ s'.lock = some n)
    (hother : ∀ m, m ≠ n → (s.lock = some m ↔ s'.lock = some m)) (m : Nat) :
    (∃ stage, s'.stages m = some stage ∧ stage.holding = true) ↔ s'.lock = some m := by
  rw [hstages]
  by_cases hm : m = n
  · subst hm
    simpa using hself
  · rw [put_stages_ne _ _ hm, hlock, hother m hm]

/-- The lock is given back by the registration for which it was taken. -/
theorem holding_finish {s : Sharing} {n : Nat} {before after : Stage} {bridge : Bridge Nat}
    (hlock : ∀ n, (∃ stage, s.stages n = some stage ∧ stage.holding = true) ↔ s.lock = some n)
    (h : s.stages n = some before) (hbefore : before.holding = true)
    (hafter : after.holding = false) (m : Nat) :
    (∃ stage, ((s.finish bridge).put n after).stages m = some stage ∧ stage.holding = true) ↔
      ((s.finish bridge).put n after).lock = some m := by
  have hheld : s.lock = some n := (hlock n).mp ⟨before, h, hbefore⟩
  have hstages : ((s.finish bridge).put n after).stages = (s.put n after).stages := rfl
  refine holding_put hlock hstages ?_ ?_ m
  · simp [finish, hafter]
  · intro other hother
    simp [finish, hheld, Ne.symm hother]

/-- A step that gives and takes no slot keeps registrations and slots together. -/
theorem Linked.of_same {d : Dispositions} {s s' : Sharing} (hs : Linked d s)
    (sound : s'.bridge.Sound d) (hactive : s'.bridge.active = s.bridge.active)
    (howner : ∀ slot, s'.bridge.ownerAt? slot = s.bridge.ownerAt? slot)
    (howns : ∀ n slot, s'.Owns n slot ↔ s.Owns n slot)
    (lock_iff : ∀ n, (∃ stage, s'.stages n = some stage ∧ stage.holding = true) ↔
      s'.lock = some n) : Linked d s' where
  sound := sound
  foreign := hs.foreign
  owner_iff n slot := by rw [howns, howner, hs.owner_iff]
  finite := by
    have hpresent : s'.present = s.present := by simp only [present, howns]
    exact hpresent ▸ hs.finite
  count := by
    have hpresent : s'.present = s.present := by simp only [present, howns]
    rw [hpresent, hactive, hs.count]
  lock_iff := lock_iff

/-- The slot of a registration is occupied by it. -/
theorem Linked.slot_of_owns {d : Dispositions} {s : Sharing} (hs : Linked d s) {n slot : Nat}
    (h : s.Owns n slot) : ∃ wake, s.bridge.slots[slot]? = some (some wake) ∧ wake.owner = n :=
  Bridge.ownerAt?_eq_some.mp ((hs.owner_iff n slot).mp h)

/-- A registration that is made takes a free slot, and is counted. -/
theorem linked_register {d : Dispositions} {s : Sharing} (hs : Linked d s) {n slot : Nat}
    {refusal : Signal → Option Errno} {bridge : Bridge Nat}
    (h : s.stages n = some (.registering true))
    (done : s.bridge.register n refusal = (bridge, .ok slot)) :
    Linked d ((s.finish bridge).put n (.live slot)) := by
  have hsound : bridge.Sound d := by
    have hkept := hs.sound.register n refusal
    rw [done] at hkept
    exact hkept
  obtain ⟨hfree, hslots, hactive, -⟩ := Bridge.register_accepted done
  obtain ⟨hlt, hnone⟩ := Bridge.freeSlot?_eq_some hfree
  -- Neither did the thread own a slot, nor anybody this one.
  have hnew : ∀ other, ¬ s.Owns n other := by
    intro other howns
    rw [Owns, h] at howns
    cases howns
  have hunowned : ∀ m, ¬ s.Owns m slot := by
    intro m howns
    obtain ⟨wake, hwake, -⟩ := hs.slot_of_owns howns
    cases hnone.symm.trans hwake
  have howner := Bridge.ownerAt?_of_set hslots hlt
  have hpresent : ((s.finish bridge).put n (.live slot)).present = insert n s.present := by
    ext m
    by_cases hm : m = n
    · subst hm
      simp [present, owns_put_self, Stage.slot?]
    · simp [present, owns_put_ne hm, hm]
  refine ⟨hsound, hs.foreign, fun m other => ?_, ?_, ?_, ?_⟩
  · rw [put_bridge]
    show _ ↔ bridge.ownerAt? other = some m
    rw [howner]
    by_cases hm : m = n
    · subst hm
      rw [owns_put_self]
      by_cases hother : other = slot
      · simp [hother, Stage.slot?]
      · have hnot := mt (hs.owner_iff m other).mpr (hnew other)
        simpa [hother, Stage.slot?, Ne.symm hother] using hnot
    · rw [owns_put_ne hm, owns_finish]
      by_cases hother : other = slot
      · subst hother
        simpa [Ne.symm hm] using hunowned m
      · simpa [hother] using hs.owner_iff m other
  · rw [hpresent]
    exact hs.finite.insert n
  · have hnotin : n ∉ s.present := fun hmem => hnew _ hmem.choose_spec
    rw [hpresent, Set.ncard_insert_of_notMem hnotin hs.finite, hs.count]
    exact hactive.symm
  · exact holding_finish hs.lock_iff h rfl rfl

/-- A registration that is dropped gives its slot back, and is counted no more. -/
theorem linked_unregister {d : Dispositions} {s : Sharing} (hs : Linked d s) {n slot : Nat}
    (h : s.stages n = some (.dropping slot true)) :
    Linked d ((s.finish (s.bridge.unregister slot)).put n .gone) := by
  have howns : s.Owns n slot := by simp [Owns, h, Stage.slot?]
  obtain ⟨wake, hwake, hwakeowner⟩ := hs.slot_of_owns howns
  have hlt : slot < s.bridge.slots.length := (List.getElem?_eq_some_iff.mp hwake).choose
  have howner := Bridge.ownerAt?_of_set (s.bridge.slots_unregister slot) hlt
  -- The thread is the one that is present no more.
  have hpresent : ((s.finish (s.bridge.unregister slot)).put n .gone).present =
      s.present \ {n} := by
    ext m
    by_cases hm : m = n
    · subst hm
      simp [present, owns_put_self, Stage.slot?]
    · simp [present, owns_put_ne hm, hm]
  refine ⟨hs.sound.unregister hwake, hs.foreign, fun m other => ?_, ?_, ?_, ?_⟩
  · rw [put_bridge]
    show _ ↔ (s.bridge.unregister slot).ownerAt? other = some m
    rw [howner]
    by_cases hm : m = n
    · subst hm
      rw [owns_put_self]
      by_cases hother : other = slot
      · simp [hother, Stage.slot?]
      · -- It had no other slot.
        have hnot : s.bridge.ownerAt? other ≠ some m := by
          intro hmine
          have hsame := (hs.owner_iff m other).mpr hmine
          rw [Owns, h] at hsame
          cases hsame
          exact hother rfl
        simpa [hother, Stage.slot?] using hnot
    · rw [owns_put_ne hm, owns_finish]
      by_cases hother : other = slot
      · subst hother
        have hnot : ¬ s.Owns m other := by
          intro hmine
          have hsame := ((hs.owner_iff m other).mp hmine).symm.trans
            ((hs.owner_iff n other).mp howns)
          cases hsame
          exact hm rfl
        simpa using hnot
      · simpa [hother] using hs.owner_iff m other
  · rw [hpresent]
    exact hs.finite.sdiff
  · have hmem : n ∈ s.present := ⟨slot, howns⟩
    rw [hpresent, Set.ncard_sdiff_singleton_of_mem hmem, hs.count]
    exact (s.bridge.active_unregister slot).symm
  · exact holding_finish hs.lock_iff h rfl rfl

/-- Of whom the lock was taken, when it is given to a registration that waits. -/
theorem linked_lock {d : Dispositions} {s : Sharing} (hs : Linked d s) {n : Nat}
    {before after : Stage} (free : s.lock = none) (h : s.stages n = some before)
    (hslot : before.slot? = after.slot?) (hholding : after.holding = true) :
    Linked d ({ s with lock := some n }.put n after) := by
  refine hs.of_same hs.sound rfl (fun _ => rfl) (owns_put_same ?_) ?_
  · show (s.stages n).bind Stage.slot? = after.slot?
    rw [h]
    exact hslot
  · refine holding_put hs.lock_iff rfl (by simp [hholding]) fun m hm => ?_
    simp [free, Ne.symm hm]

/-- What the process was told last to do with the signals. -/
def told (d : Dispositions) (labels : List Label) : Dispositions :=
  labels.foldl (fun d label => match label with | .assign e => e | _ => d) d

theorem told_concat (d : Dispositions) (labels : List Label) (label : Label) :
    told d (labels ++ [label]) = match label with | .assign e => e | _ => told d labels := by
  simp [told]

/-- Registrations and slots belong together after a step, too. -/
theorem linked_move {d : Dispositions} {labels : List Label} {s s' : Sharing} {label : Label}
    (hs : Linked (told d labels) s) (h : Move s label s') :
    Linked (told d (labels ++ [label])) s' := by
  rw [told_concat]
  cases h with
  | @begin n new =>
    refine hs.of_same hs.sound rfl (fun _ => rfl) (owns_put_same (by simp [new, Stage.slot?])) ?_
    refine holding_put hs.lock_iff rfl ?_ fun _ _ => Iff.rfl
    have hfree : s.lock ≠ some n := by simp [← hs.lock_iff, new]
    simpa [Stage.holding] using hfree
  | lockToRegister free h => exact linked_lock hs free h rfl rfl
  | lockToDrop free h => exact linked_lock hs free h rfl rfl
  | register h done => exact linked_register hs h done
  | @refuse n e refusal bridge h done =>
    obtain ⟨rfl, -⟩ := Bridge.register_refused done
    refine hs.of_same hs.sound rfl (fun _ => rfl) (fun m slot => ?_)
      (holding_finish hs.lock_iff h rfl rfl)
    rw [owns_put_same (by simp [finish, h, Stage.slot?]), owns_finish]
  | @drop n slot h =>
    refine hs.of_same hs.sound rfl (fun _ => rfl) (owns_put_same (by simp [h, Stage.slot?])) ?_
    refine holding_put hs.lock_iff rfl ?_ fun _ _ => Iff.rfl
    have hfree : s.lock ≠ some n := by simp [← hs.lock_iff, h, Stage.holding]
    simpa [Stage.holding] using hfree
  | unregister h => exact linked_unregister hs h
  | @raise signal handled =>
    exact hs.of_same (hs.sound.deliver signal) rfl (s.bridge.ownerAt?_deliver signal)
      (fun _ _ => Iff.rfl) hs.lock_iff
  | ignore unhandled => exact hs
  | @read n slot h =>
    exact hs.of_same (hs.sound.read slot) rfl (s.bridge.ownerAt?_read slot) (fun _ _ => Iff.rfl)
      hs.lock_iff
  | assign free idle foreign =>
    -- Nothing is saved, and what is set is what will be found.
    have hsaved := (hs.sound.idle idle).2
    exact
      { sound :=
          { length := hs.sound.length
            active := hs.sound.active
            idle := fun _ => ⟨rfl, hsaved⟩
            busy := fun hpos => absurd idle (Nat.ne_of_gt hpos) }
        foreign := foreign
        owner_iff := hs.owner_iff
        finite := hs.finite
        count := hs.count
        lock_iff := hs.lock_iff }

theorem linked_run {d : Dispositions} (hd : d.Foreign) {labels : List Label} {s : Sharing}
    (h : (start d).run labels = some s) : Linked (told d labels) s :=
  run_induction (P := fun labels s => Linked (told d labels) s) (linked_start hd)
    (fun _ _ _ _ _ hs hmove => linked_move hs hmove) h

end Sharing

end HostedFs.Signal
