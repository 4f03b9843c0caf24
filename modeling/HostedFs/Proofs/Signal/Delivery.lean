import HostedFs.Proofs.Signal.Turns

/-! # Signals are delivered

    Listeners come and go while signals are raised. Each of them runs its callback for
    every signal from the time it is armed until its callback has succeeded, or until
    it is stopped; and the process has its own dispositions back whenever nobody
    listens.

    * `Group.Step`, `Group.run`: what is done to a group, step by step.
    * `tended_run`: the bridge and the listeners fit after every run.
    * `Counter.after`, `counter_run`: a listener from its arming on.
    * `delivery_run`: how often each callback has run, who listens, and whose handlers
      are installed.
-/

namespace HostedFs.Signal

/-- The listener after it was stopped. -/
def Counter.stop (c : Counter) : Counter :=
  { c with slot := none }

namespace Group

/-! ## Runs -/

/-- What is done to a group. Each step goes on until nothing is left to be done. -/
inductive Step
  /-- A listener is armed whose callback succeeds from a run on. -/
  | arm (stopAfter : Nat)
  | raise (s : Signal)
  /-- A listener is stopped, known by its number. -/
  | finish (i : Nat)
  deriving DecidableEq, Repr

/-- The group after a step. -/
def apply (g : Group) : Step → Group
  | .arm stopAfter => (g.arm stopAfter).1
  | .raise s => (g.raise s).1
  | .finish i => (g.finish i).1

/-- The group after steps, in a process that does with the signals as told until
    somebody listens. -/
def run (d : Dispositions) (steps : List Step) : Group :=
  steps.foldl apply { bridge := { dispositions := d } }

theorem run_append (d : Dispositions) (steps more : List Step) :
    run d (steps ++ more) = more.foldl apply (run d steps) :=
  List.foldl_append

/-- Nothing waits for anyone between the steps. -/
abbrev Settled (d : Dispositions) (g : Group) : Prop :=
  Tended d (fun _ => []) g

variable {d : Dispositions} {g : Group}

/-! ## Steps -/

/-- A listener that finds a slot is the last of the group. -/
theorem arm_accepted {k : Nat} (h : (g.arm k).2 = .ok ()) :
    ∃ bridge slot, g.bridge.register g.counters.length (fun _ => none) = (bridge, .ok slot) ∧
      (g.arm k).1 = { bridge, counters := g.counters ++ [⟨k, 0, some slot⟩] } := by
  unfold arm at h ⊢
  rcases hregister : g.bridge.register g.counters.length (fun _ => none) with ⟨bridge, e | slot⟩
  · rw [hregister] at h
    cases h
  · exact ⟨bridge, slot, rfl, rfl⟩

/-- One that finds none leaves no trace. -/
theorem arm_refused {k : Nat} {e : RegisterError} (h : (g.arm k).2 = .error e) :
    (g.arm k).1 = g := by
  unfold arm at h ⊢
  rcases hregister : g.bridge.register g.counters.length (fun _ => none) with ⟨bridge, e | slot⟩
  · rfl
  · rw [hregister] at h
    cases h

namespace Tended

theorem arm (hg : Settled d g) (k : Nat) : Settled d (g.arm k).1 := by
  cases hresult : (g.arm k).2 with
  | error e =>
    rw [arm_refused hresult]
    exact hg
  | ok done =>
    obtain ⟨bridge, slot, hregister, harm⟩ := arm_accepted hresult
    rw [harm]
    obtain ⟨hfree, hslots, hactive, -⟩ := Bridge.register_accepted hregister
    obtain ⟨hlt, hempty⟩ := Bridge.freeSlot?_eq_some hfree
    have hsound := hg.sound.register g.counters.length (fun _ => none)
    rw [hregister] at hsound
    refine ⟨hsound, ?_, ?_, ?_⟩
    · simp [hactive, hg.count, Counter.armed]
    · intro i c other hc hother
      -- An earlier listener has another slot; the new one has the slot that was free.
      rcases Nat.lt_trichotomy i g.counters.length with hi | rfl | hi
      · rw [List.getElem?_append_left hi] at hc
        have hwake := hg.owned i c other hc hother
        have hne : slot ≠ other := by
          rintro rfl
          cases hempty.symm.trans hwake
        show bridge.slots[other]? = _
        rw [hslots, List.getElem?_set_ne hne, hwake]
      · rw [List.getElem?_concat_length] at hc
        cases hc
        cases hother
        show bridge.slots[slot]? = _
        rw [hslots, List.getElem?_set_self hlt]
      · rw [List.getElem?_eq_none (by simpa using Nat.succ_le_of_lt hi)] at hc
        cases hc
    · intro other wake hwake
      have hset : (g.bridge.slots.set slot (some ⟨g.counters.length, []⟩))[other]? =
          some (some wake) := hslots ▸ hwake
      rcases (getElem?_set_of_some hempty).mp hset with ⟨rfl, hnew⟩ | ⟨-, hold⟩
      · cases hnew
        exact ⟨_, List.getElem?_concat_length, rfl⟩
      · obtain ⟨c, hc, hother⟩ := hg.owner other wake hold
        obtain ⟨hi, -⟩ := List.getElem?_eq_some_iff.mp hc
        exact ⟨c, (List.getElem?_append_left hi).trans hc, hother⟩

/-- A listener cannot be armed just when there are as many as slots. -/
theorem arm_eq_error_iff (hg : Settled d g) (k : Nat) :
    (∃ e, (g.arm k).2 = .error e) ↔ g.counters.countP Counter.armed = slotCount := by
  constructor
  · intro h
    obtain ⟨e, hresult⟩ := h
    unfold Group.arm at hresult
    rcases hregister : g.bridge.register g.counters.length (fun _ => none) with ⟨bridge, e' | slot⟩
    · obtain ⟨-, ⟨-, hfull⟩ | ⟨_, -, -, hrefused⟩⟩ := Bridge.register_refused hregister
      · rw [← hg.count]
        exact hg.sound.active_eq_of_full hfull
      · rw [Dispositions.findSome?_all_eq_none.mpr fun _ => rfl] at hrefused
        cases hrefused
    · rw [hregister] at hresult
      cases hresult
  · intro hfull
    cases hresult : (g.arm k).2 with
    | error e => exact ⟨e, rfl⟩
    | ok done =>
      -- There would be more listeners than slots.
      obtain ⟨bridge, slot, -, harm⟩ := arm_accepted hresult
      have hnext := hg.arm k
      have hmore : (g.arm k).1.counters.countP Counter.armed = slotCount + 1 := by
        simp [harm, hfull, Counter.armed]
      have hle := hnext.sound.active_le
      rw [hnext.count, hmore] at hle
      exact absurd hle (Nat.not_succ_le_self slotCount)

/-- A listener that is stopped gives its slot back. -/
theorem finish (hg : Settled d g) (i : Nat) :
    (g.finish i).1.counters = g.counters.modify i Counter.stop ∧ Settled d (g.finish i).1 := by
  cases hc : g.counters[i]? with
  | none =>
    rw [List.modify_eq_self (List.getElem?_eq_none_iff.mp hc)]
    simp only [Group.finish, hc]
    exact ⟨trivial, hg⟩
  | some c =>
    have hmodify : g.counters.modify i Counter.stop = g.counters.set i c.stop := by
      rw [List.modify_eq_set_getElem?, hc]
      rfl
    obtain ⟨stopAfter, fired, slot?⟩ := c
    cases slot? with
    | none =>
      obtain ⟨hlt, hget⟩ := List.getElem?_eq_some_iff.mp hc
      -- A listener that has no slot is stopped already.
      have hsame : g.counters.set i ⟨stopAfter, fired, none⟩ = g.counters := by
        rw [← hget, List.set_getElem_self]
      simp only [Group.finish, hc]
      exact ⟨(hmodify.trans hsame).symm, hg⟩
    | some slot =>
      simp only [Group.finish, hc]
      exact ⟨hmodify.symm, hg.unregister hc rfl rfl⟩

end Tended

/-- A step keeps the bridge and the listeners fitting. -/
theorem Tended.apply (hg : Settled d g) (hd : d.Foreign) (step : Step) :
    Settled d (g.apply step) := by
  cases step with
  | arm k => exact hg.arm k
  | raise s => exact (hg.raise hd s).2
  | finish i => exact (hg.finish i).2

theorem tended_foldl (hg : Settled d g) (hd : d.Foreign) (steps : List Step) :
    Settled d (steps.foldl Group.apply g) := by
  induction steps generalizing g with
  | nil => exact hg
  | cons step steps ih => exact ih (hg.apply hd step)

/-- Between the steps of a run nothing waits, and bridge and listeners fit. -/
theorem tended_run (hd : d.Foreign) (steps : List Step) : Settled d (run d steps) :=
  tended_foldl (tended_start d _) hd steps

end Group

/-! ## A listener from its arming on -/

/-- What a step does to the listener with a number. -/
def Counter.apply (i : Nat) (c : Counter) : Group.Step → Counter
  | .arm _ => c
  | .raise _ => c.tick
  | .finish j => if j = i then c.stop else c

/-- The signals that are raised until the listener with a number is stopped. -/
def heard (i : Nat) : List Group.Step → Nat
  | [] => 0
  | .arm _ :: rest => heard i rest
  | .raise _ :: rest => heard i rest + 1
  | .finish j :: rest => if j = i then 0 else heard i rest

namespace Counter

/-- Nothing happens any more to a listener that no longer listens. -/
theorem foldl_apply_of_not_armed {i : Nat} {c : Counter} (h : ¬ c.armed) (steps : List Group.Step) :
    steps.foldl (apply i) c = c := by
  have hstop : c.stop = c := by
    have hslot : c.slot = none := by simpa [armed] using h
    rw [stop, ← hslot]
  induction steps with
  | nil => rfl
  | cons step steps ih =>
    have hstep : apply i c step = c := by
      cases step with
      | arm k => rfl
      | raise s => exact tick_of_not_armed h
      | finish j => by_cases hj : j = i <;> simp [apply, hj, hstop]
    rw [List.foldl_cons, hstep, ih]

/-- A listener runs its callback for every signal that it hears, but not after the
    callback has succeeded; until then, or until it is stopped, it listens. -/
theorem foldl_apply_of_armed {i : Nat} {c : Counter} (h : c.armed) (hmore : c.fired < c.stopAfter)
    (steps : List Group.Step) :
    (steps.foldl (apply i) c).fired = min c.stopAfter (c.fired + heard i steps) ∧
      ((steps.foldl (apply i) c).armed ↔
        .finish i ∉ steps ∧ c.fired + heard i steps < c.stopAfter) := by
  induction steps generalizing c with
  -- Induction over the steps, as long as the listener is armed and has not had enough signals.
  | nil => simp [heard, h, hmore, Nat.le_of_lt hmore]
  | cons step steps ih =>
    cases step with
    | arm k => simpa [apply, heard] using ih h hmore
    | finish j =>
      by_cases hj : j = i
      · subst hj
        have hidle : ¬ c.stop.armed := by simp [stop, armed]
        have hfold := foldl_apply_of_not_armed (i := j) hidle steps
        simp only [List.foldl_cons, apply, if_true, hfold, heard]
        refine ⟨(Nat.min_eq_right (Nat.le_of_lt hmore)).symm, iff_of_false hidle ?_⟩
        simp
      · simpa [apply, heard, hj, Ne.symm hj] using ih h hmore
    | raise s =>
      obtain ⟨slot, hslot⟩ := Option.isSome_iff_exists.mp h
      by_cases hlast : c.stopAfter ≤ c.fired + 1
      · -- The callback succeeds.
        have htick : c.tick = { c with fired := c.fired + 1, slot := none } := by
          simp [tick, hslot, hlast]
        have hidle : ¬ c.tick.armed := by simp [htick, armed]
        have hfold := foldl_apply_of_not_armed (i := i) hidle steps
        simp only [List.foldl_cons, apply, hfold, heard]
        refine ⟨?_, iff_of_false hidle ?_⟩
        · simp only [htick]
          omega
        · omega
      · have htick : c.tick = { c with fired := c.fired + 1 } := by
          simp [tick, hslot, hlast]
        have hnext := ih (c := c.tick) (by simpa [htick, armed] using h) (by simp [htick]; omega)
        simp only [htick] at hnext
        simp only [List.foldl_cons, apply, htick, heard, List.mem_cons, reduceCtorEq, false_or]
        rw [← Nat.add_assoc, Nat.add_right_comm]
        exact hnext

end Counter

namespace Group

variable {d : Dispositions} {g : Group}

/-- What a step does to a listener. -/
theorem Tended.counter_apply (hg : Settled d g) (hd : d.Foreign) {i : Nat} {c : Counter}
    (hc : g.counters[i]? = some c) (step : Step) :
    (g.apply step).counters[i]? = some (c.apply i step) := by
  cases step with
  | arm k =>
    cases hresult : (g.arm k).2 with
    | error e => simpa [Group.apply, Counter.apply, arm_refused hresult] using hc
    | ok done =>
      obtain ⟨bridge, slot, -, harm⟩ := arm_accepted hresult
      obtain ⟨hi, -⟩ := List.getElem?_eq_some_iff.mp hc
      simpa [Group.apply, Counter.apply, harm, List.getElem?_append_left hi] using hc
  | raise s => simp [Group.apply, Counter.apply, (hg.raise hd s).1, hc]
  | finish j =>
    have hcounters := (hg.finish j).1
    by_cases hj : j = i
    · subst hj
      simp [Group.apply, Counter.apply, hcounters, hc]
    · simp [Group.apply, Counter.apply, hcounters, hc, hj]

theorem counter_foldl (hg : Settled d g) (hd : d.Foreign) {i : Nat} {c : Counter}
    (hc : g.counters[i]? = some c) (steps : List Step) :
    (steps.foldl Group.apply g).counters[i]? = some (steps.foldl (Counter.apply i) c) := by
  induction steps generalizing g c with
  | nil => exact hc
  | cons step steps ih => exact ih (hg.apply hd step) (hg.counter_apply hd hc step)

/-- A step that adds a listener arms it. -/
theorem Tended.length_apply (hg : Settled d g) (hd : d.Foreign) (step : Step) :
    (g.apply step).counters.length = g.counters.length ∨
      ∃ k, step = .arm k ∧ (g.arm k).2 = .ok () ∧
        (g.apply step).counters.length = g.counters.length + 1 := by
  cases step with
  | arm k =>
    cases hresult : (g.arm k).2 with
    | error e => exact .inl (by rw [Group.apply, arm_refused hresult])
    | ok done =>
      obtain ⟨bridge, slot, -, harm⟩ := arm_accepted hresult
      exact .inr ⟨k, rfl, hresult, by simp [Group.apply, harm]⟩
  | raise s => exact .inl (by simp [Group.apply, (hg.raise hd s).1])
  | finish i => exact .inl (by simp [Group.apply, (hg.finish i).1])

/-- The listener with a number was armed in the course of the steps, by a callback
    that succeeds from a run on, and then came the rest of them. -/
def ArmedBy (d : Dispositions) (steps : List Step) (i k : Nat) (after : List Step) : Prop :=
  ∃ before, steps = before ++ .arm k :: after ∧ ((run d before).arm k).2 = .ok () ∧
    (run d before).counters.length = i

/-- Every listener of a group was armed by a step. -/
theorem exists_armedBy (hd : d.Foreign) (steps : List Step) {i : Nat}
    (hi : i < (run d steps).counters.length) : ∃ k after, ArmedBy d steps i k after := by
  induction steps using List.reverseRecOn with
  | nil => cases hi
  | append_singleton steps step ih =>
    by_cases hold : i < (run d steps).counters.length
    · obtain ⟨k, after, before, rfl, haccepted, hnumber⟩ := ih hold
      exact ⟨k, after ++ [step], before, by simp, haccepted, hnumber⟩
    · rw [run_append, List.foldl_cons, List.foldl_nil] at hi
      rcases (tended_run hd steps).length_apply hd step with hsame | ⟨k, rfl, haccepted, hmore⟩
      · exact absurd (hsame ▸ hi) hold
      · rw [hmore] at hi
        exact ⟨k, [], steps, rfl, haccepted, by omega⟩

/-- A listener is what the steps since its arming have made of it. -/
theorem counter_run (hd : d.Foreign) {steps : List Step} {i k : Nat} {after : List Step}
    (h : ArmedBy d steps i k after) :
    ∃ slot, (run d steps).counters[i]? =
      some (after.foldl (Counter.apply i) ⟨k, 0, some slot⟩) := by
  obtain ⟨before, rfl, haccepted, rfl⟩ := h
  have hbefore := tended_run hd before
  obtain ⟨bridge, slot, -, harm⟩ := arm_accepted haccepted
  refine ⟨slot, ?_⟩
  rw [run_append, List.foldl_cons]
  refine counter_foldl (hbefore.apply hd (.arm k)) hd ?_ after
  simp [Group.apply, harm]

/-! ## Whole runs -/

/-- While nobody listens the process does with the signals as it did before. -/
theorem Tended.dispositions_of_idle (hg : Settled d g) (h : ∀ c ∈ g.counters, ¬ c.armed) :
    g.bridge.dispositions = d := by
  refine (hg.sound.idle ?_).1
  rw [hg.count]
  exact List.countP_eq_zero.mpr h

/-- Whoever is stopped listens no more. -/
theorem tended_finishes (hg : Settled d g) (order : List Nat) :
    ((order.map Step.finish).foldl Group.apply g).counters =
        g.counters.mapIdx (fun i c => if i ∈ order then c.stop else c) ∧
      Settled d ((order.map Step.finish).foldl Group.apply g) := by
  induction order generalizing g with
  -- Induction over the order, in which a listener may be named more than once.
  | nil =>
    refine ⟨List.ext_getElem? fun i => ?_, hg⟩
    cases hc : g.counters[i]? <;> simp [hc]
  | cons j order ih =>
    obtain ⟨hcounters, hnext⟩ := hg.finish j
    obtain ⟨hrest, htended⟩ := ih hnext
    refine ⟨?_, htended⟩
    rw [List.map_cons, List.foldl_cons]
    refine hrest.trans ?_
    refine List.ext_getElem? fun i => ?_
    rw [hcounters]
    simp only [List.getElem?_mapIdx, List.getElem?_modify]
    cases hc : g.counters[i]? with
    | none => rfl
    | some c =>
      by_cases hj : j = i
      · by_cases hi : i ∈ order <;> simp [hj, hi, Counter.stop]
      · simp [hj, Ne.symm hj]

/-- How a group stands after steps, whatever listeners have come and gone and whatever
    signals were raised. -/
structure Delivered (d : Dispositions) (steps : List Step) : Prop where
  known : ∀ i, i < (run d steps).counters.length → ∃ k after, ArmedBy d steps i k after
  /-- A listener has run its callback for each signal since it was armed, until the
      callback succeeded or the listener was stopped. Until then it listens. -/
  fired : ∀ i k after, ArmedBy d steps i k after → 1 ≤ k →
    ∃ c, (run d steps).counters[i]? = some c ∧ c.fired = min k (heard i after) ∧
      (c.armed ↔ .finish i ∉ after ∧ heard i after < k)
  handlers : (run d steps).bridge.dispositions = ⟨.bridge, .bridge⟩ ↔
    ∃ c ∈ (run d steps).counters, c.armed
  /-- While nobody listens the process does as it did before, and nothing is
      delivered. -/
  idle : (∀ c ∈ (run d steps).counters, ¬ c.armed) →
    (run d steps).bridge.dispositions = d ∧ ∀ s, (run d steps).raise s = (run d steps, false)
  full : ∀ k, (∃ e, ((run d steps).arm k).2 = .error e) ↔
    (run d steps).counters.countP Counter.armed = slotCount
  refused : ∀ k e, ((run d steps).arm k).2 = .error e → run d (steps ++ [.arm k]) = run d steps
  /-- All listeners are stopped, in any order. -/
  ended : ∀ order : List Nat, (∀ i, i < (run d steps).counters.length → i ∈ order) →
    (run d (steps ++ order.map .finish)).bridge.dispositions = d
  quiet : (run d steps).Quiet
  /-- In which order the listeners take their turns for a signal does not matter. -/
  turns : ∀ s order, (run d steps).bridge.handles s → (((run d steps).told s).turns order).Quiet →
    ((run d steps).told s).turns order = run d (steps ++ [.raise s])

/-- A group of listeners is `Delivered` after every run of steps, if nobody but the bridge has its
    handler (`Foreign`): `fired` counts the signals that each one has heard, the handlers are
    installed just while one of them is armed, and at most `slotCount` of them are. -/
theorem delivery_run (hd : d.Foreign) (steps : List Step) : Delivered d steps where
  known _ hi := exists_armedBy hd steps hi
  fired i k after harmed hk := by
    -- A counter changes by the steps after it was armed, and starts at zero.
    obtain ⟨slot, hc⟩ := counter_run hd harmed
    have hfold := Counter.foldl_apply_of_armed (i := i) (c := ⟨k, 0, some slot⟩) rfl hk after
    simp only [Nat.zero_add] at hfold
    exact ⟨_, hc, hfold⟩
  handlers := by
    -- The bridge is active just as long as some counter has a slot.
    have hg := tended_run hd steps
    have hpos : 0 < (run d steps).bridge.active ↔ ∃ c ∈ (run d steps).counters, c.armed := by
      rw [hg.count, List.countP_pos_iff]
    rw [← hpos]
    refine ⟨fun hbridged => ?_, fun hactive => (hg.sound.busy hactive).1⟩
    refine (hg.sound.handles_iff hd .interrupt).mp (decide_eq_true ?_)
    rw [hbridged, Dispositions.get_bridged]
  idle hidle := by
    have hg := tended_run hd steps
    refine ⟨hg.dispositions_of_idle hidle, fun s => ?_⟩
    have hdeaf : ¬ (run d steps).bridge.handles s := by
      rw [hg.handles_iff hd]
      rintro ⟨c, hc, harmed⟩
      exact hidle c hc harmed
    simp [raise, hdeaf]
  full k := (tended_run hd steps).arm_eq_error_iff k
  refused k e he := by
    rw [run_append]
    exact arm_refused he
  ended order hall := by
    obtain ⟨hcounters, hg⟩ := tended_finishes (tended_run hd steps) order
    rw [run_append]
    refine hg.dispositions_of_idle fun c hc => ?_
    rw [hcounters, List.mem_mapIdx] at hc
    obtain ⟨i, hi, rfl⟩ := hc
    simp [hall i hi, Counter.stop, Counter.armed]
  quiet := (tended_run hd steps).quiet fun _ _ => rfl
  turns s order hhandles hquiet := by
    rw [run_append]
    exact (tended_run hd steps).turns_eq_raise hhandles hquiet

/-- Two listeners are armed, one more after the first signal, and that one is stopped
    after the second. -/
def takingTurns : List Step :=
  [.arm 2, .arm 1, .raise .interrupt, .arm 5, .raise .terminate, .finish 2]

/-- The callbacks of the first two have succeeded, and that of the third has run once
    and not succeeded. -/
theorem delivery_run_taking_turns : ({} : Dispositions).Foreign ∧
    (run {} takingTurns).counters = [⟨2, 2, none⟩, ⟨1, 1, none⟩, ⟨5, 1, none⟩] ∧
      Delivered {} takingTurns := by
  have hforeign : ({} : Dispositions).Foreign := by decide
  exact ⟨hforeign, by decide, delivery_run hforeign takingTurns⟩

end Group

end HostedFs.Signal
