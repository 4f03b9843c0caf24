import HostedFs.Proofs.Host.Threads

/-! # What running hosts do

    Whatever runs the hosts of a process moves them by their steps. While the native loop of
    a mount waits for what it has called for, these are steps of the call to mount and of
    the listeners of its host.

    * `Meanwhile`: a world is come to by steps that are taken while the native loop of a
      mount waits.
    * `Hosts.Plays`: hosts come to others by such steps of one host.
    * `Hosts.plays_act`, `Hosts.plays_attend`: a thread is given an input and goes on; an
      implementation is told of the mount.
-/

namespace HostedFs.Host

variable {setup : Setup} {n : Nat}

/-! ## Steps while the native loop waits -/

/-- The native loop of a mount does not run. -/
def Engaged (n : Nat) (w : World) : Prop :=
  ∃ c, w.host.mounts n = some c ∧ c.phase ≠ .running

/-- The step is not one of another call to mount, and the native loop does not speak. -/
def Label.Aside (n : Nat) (label : Label) : Prop :=
  ∀ m input, label = .act (.mount m) input → m = n ∧ input.fromLoop = false

/-- Steps that are taken while the native loop of a mount waits, and what they report. -/
inductive Meanwhile (setup : Setup) (n : Nat) (w : World) : List Event → World → Prop
  | here : Meanwhile setup n w [] w
  | step {told more : List Event} {v u : World} {label : Label}
    (before : Meanwhile setup n w told v) (engaged : Engaged n v) (aside : label.Aside n)
    (next : Host.step setup label v = some (u, more)) : Meanwhile setup n w (told ++ more) u

theorem Meanwhile.trans {w v u : World} {told more : List Event} (h : Meanwhile setup n w told v)
    (h' : Meanwhile setup n v more u) : Meanwhile setup n w (told ++ more) u := by
  induction h' with
  | here =>
    rw [List.append_nil]
    exact h
  | step _ engaged aside next ih =>
    rw [← List.append_assoc]
    exact .step ih engaged aside next

/-- What holds of a world, and is kept by a step while the native loop waits, holds of every
    world that such steps come to. -/
theorem Meanwhile.keeps {P : List Event → World → Prop} {w v : World} {told : List Event}
    (h : Meanwhile setup n w told v) (start : P [] w)
    (next : ∀ told v label more u, P told v → Engaged n v → Label.Aside n label →
      Host.step setup label v = some (u, more) → P (told ++ more) u) : P told v := by
  induction h with
  | here => exact start
  | step _ engaged aside hstep ih => exact next _ _ _ _ _ ih engaged aside hstep

theorem aside_listener (k : Nat) (input : Input) : Label.Aside n (.act (.listener k) input) := by
  intro m input' h
  cases h

theorem aside_mount {input : Input} (h : input.fromLoop = false) :
    Label.Aside n (.act (.mount n) input) := by
  intro m input' heq
  cases heq
  exact ⟨rfl, h⟩

/-- While the native loop runs, a call to mount goes on only when the loop speaks. -/
theorem engaged_of_step {w : World} {input : Input} {moved : Moved}
    (hinput : input.fromLoop = false)
    (h : step setup (.act (.mount n) input) w = some moved) : Engaged n w := by
  obtain ⟨c, hc, h⟩ := Option.bind_eq_some_iff.mp h
  refine ⟨c, hc, fun hrunning => ?_⟩
  cases input with
  | callInit | callDestroy | loopReturned => cases hinput
  | _ => simp [mountStep, hrunning] at h

/-- A listener does not move a call to mount. -/
theorem engaged_of_listener {w v : World} {k : Nat} {input : Input} {events : List Event}
    (h : step setup (.act (.listener k) input) w = some (v, events)) (hw : Engaged n w) :
    Engaged n v := by
  obtain ⟨c, hc, hphase⟩ := hw
  obtain ⟨l, hl, h⟩ := Option.bind_eq_some_iff.mp h
  obtain ⟨u, l', rfl, -, hshared⟩ := listenerStep_shared h
  refine ⟨c, ?_, hphase⟩
  show u.host.mounts n = some c
  rw [hshared.mounts, hc]

namespace Hosts

variable {σ : Type} {env : Surroundings σ} {h : Nat} {s s' : Hosts σ}

/-! ## Hosts and worlds -/

/-- A host and the process it lives in. -/
def world (s : Hosts σ) (h : Nat) : World :=
  ⟨s.process, s.host h⟩

/-- The process has a host that is set up so. -/
def Has (s : Hosts σ) (h : Nat) (setup : Setup) : Prop :=
  ∃ host, s.members[h]? = some (setup, host)

theorem Has.member (hs : s.Has h setup) : s.members[h]? = some (setup, s.host h) := by
  obtain ⟨host, hmember⟩ := hs
  simp [Hosts.host, hmember]

/-- The hosts after a step of one of them. -/
def moved (s : Hosts σ) (h : Nat) (setup : Setup) (w : World) (events : List Event) : Hosts σ :=
  { s with
    process := w.process
    members := s.members.set h (setup, w.host)
    events := s.events ++ events }

theorem lt_of_has (hs : s.Has h setup) : h < s.members.length := by
  obtain ⟨host, hmember⟩ := hs
  exact (List.getElem?_eq_some_iff.mp hmember).1

theorem has_moved (hs : s.Has h setup) (w : World) (events : List Event) :
    (s.moved h setup w events).Has h setup :=
  ⟨w.host, List.getElem?_set_self (lt_of_has hs)⟩

theorem world_moved (hs : s.Has h setup) (w : World) (events : List Event) :
    (s.moved h setup w events).world h = w := by
  have hset : (s.members.set h (setup, w.host))[h]? = some (setup, w.host) :=
    List.getElem?_set_self (lt_of_has hs)
  simp [world, moved, Hosts.host, hset]

theorem step?_eq_some_iff (hs : s.Has h setup) {label : Label} :
    s.step? h label = some s' ↔
      ∃ w events, Host.step setup label (s.world h) = some (w, events) ∧
        s' = s.moved h setup w events := by
  unfold step?
  rw [hs.member, Option.bind_eq_bind, Option.bind_some]
  constructor
  · intro hstep
    obtain ⟨⟨w, events⟩, hw, heq⟩ := Option.bind_eq_some_iff.mp hstep
    exact ⟨w, events, hw, (Option.some.inj heq).symm⟩
  · intro hstep
    obtain ⟨w, events, hw, rfl⟩ := hstep
    exact Option.bind_eq_some_iff.mpr ⟨(w, events), hw, rfl⟩

theorem step?_eq_none_iff (hs : s.Has h setup) {label : Label} :
    s.step? h label = none ↔ Host.step setup label (s.world h) = none := by
  cases hw : Host.step setup label (s.world h) with
  | none =>
    refine iff_of_true (Option.eq_none_iff_forall_ne_some.mpr fun s' hstep => ?_) rfl
    obtain ⟨w, events, hw', -⟩ := (step?_eq_some_iff hs).mp hstep
    cases hw.symm.trans hw'
  | some moved =>
    refine iff_of_false ?_ nofun
    rw [(step?_eq_some_iff hs).mpr ⟨moved.1, moved.2, hw, rfl⟩]
    nofun

/-! ## Playing steps -/

/-- Hosts come to others by steps of one host, taken while the native loop of a mount waits.
    What the steps report is among what is reported. -/
structure Plays (setup : Setup) (h n : Nat) (s s' : Hosts σ) : Prop where
  has : s'.Has h setup
  comes : ∃ told since, Meanwhile setup n (s.world h) told (s'.world h) ∧
    s'.events = s.events ++ since ∧ told ⊆ since

theorem Plays.refl (hs : s.Has h setup) : Plays setup h n s s :=
  ⟨hs, [], [], .here, (List.append_nil _).symm, List.Subset.refl _⟩

theorem Plays.trans {s'' : Hosts σ} (hplays : Plays setup h n s s')
    (hplays' : Plays setup h n s' s'') : Plays setup h n s s'' := by
  obtain ⟨told, since, hmeanwhile, hevents, htold⟩ := hplays.comes
  obtain ⟨told', since', hmeanwhile', hevents', htold'⟩ := hplays'.comes
  refine ⟨hplays'.has, told ++ told', since ++ since', hmeanwhile.trans hmeanwhile', ?_, ?_⟩
  · rw [hevents', hevents, List.append_assoc]
  · exact List.append_subset.mpr ⟨List.Subset.trans htold (List.subset_append_left ..),
      List.Subset.trans htold' (List.subset_append_right ..)⟩

/-- Hosts whose surroundings change, and who report what is no step. -/
theorem Plays.of_same (hs : s.Has h setup) {since : List Event} (hmembers : s'.members = s.members)
    (hprocess : s'.process = s.process) (hevents : s'.events = s.events ++ since) :
    Plays setup h n s s' := by
  have hworld : s'.world h = s.world h := by
    simp only [world, Hosts.host, hmembers, hprocess]
  refine ⟨?_, [], since, ?_, hevents, List.nil_subset _⟩
  · obtain ⟨host, hmember⟩ := hs
    exact ⟨host, hmembers ▸ hmember⟩
  · rw [hworld]
    exact .here

theorem Plays.of_step (hs : s.Has h setup) {label : Label} (hengaged : Engaged n (s.world h))
    (haside : label.Aside n) (hstep : s.step? h label = some s') : Plays setup h n s s' := by
  obtain ⟨w, events, hw, rfl⟩ := (step?_eq_some_iff hs).mp hstep
  refine ⟨has_moved hs w events, [] ++ events, events, ?_, rfl, List.Subset.refl _⟩
  rw [world_moved hs]
  exact .step .here hengaged haside hw

/-! ## Threads that go on -/

/-- To look for the next input of a thread leaves the hosts where they are. -/
theorem feed_same (env : Surroundings σ) (h : Nat) (role : Role) (s : Hosts σ) :
    (s.feed env h role).2.members = s.members ∧ (s.feed env h role).2.process = s.process ∧
      ∃ since, (s.feed env h role).2.events = s.events ++ since := by
  have hnothing : ∃ since, s.events = s.events ++ since := ⟨[], (List.append_nil _).symm⟩
  unfold feed
  split
  · exact ⟨rfl, rfl, hnothing⟩
  · exact ⟨rfl, rfl, hnothing⟩
  · exact ⟨rfl, rfl, hnothing⟩
  · split
    · split
      · exact ⟨rfl, rfl, _, rfl⟩
      · exact ⟨rfl, rfl, hnothing⟩
      all_goals exact ⟨rfl, rfl, hnothing⟩
    · exact ⟨rfl, rfl, hnothing⟩
    · exact ⟨rfl, rfl, hnothing⟩

theorem world_feed (env : Surroundings σ) (h : Nat) (role : Role) (s : Hosts σ) :
    (s.feed env h role).2.world h = s.world h := by
  obtain ⟨hmembers, hprocess, -⟩ := feed_same env h role s
  simp only [world, Hosts.host, hmembers, hprocess]

theorem plays_feed (env : Surroundings σ) (hs : s.Has h setup) (role : Role) :
    Plays setup h n s (s.feed env h role).2 := by
  obtain ⟨hmembers, hprocess, since, hevents⟩ := feed_same env h role s
  exact .of_same hs hmembers hprocess hevents

/-- A call to mount that goes on by itself does not wait for the native loop, and is not
    given what only the loop can say. -/
theorem feed_mount {input : Input} {fed : Hosts σ}
    (hfeed : s.feed env h (.mount n) = (some input, fed)) :
    Engaged n (s.world h) ∧ input.fromLoop = false := by
  have hattempt {phase : UnmountPhase} (hphase : attempt? (s.host h) (.mount n) = some phase) :
      Engaged n (s.world h) := by
    rw [attempt?_mount] at hphase
    obtain ⟨c, hc, hphase⟩ := Option.bind_eq_some_iff.mp hphase
    refine ⟨c, hc, fun hrunning => ?_⟩
    rw [hrunning] at hphase
    cases hphase
  have hcall {phase : MountPhase} (hphase : s.mountPhase? h n = some phase)
      (hbusy : phase ≠ .running) : Engaged n (s.world h) := by
    obtain ⟨c, hc, rfl⟩ := Option.map_eq_some_iff.mp hphase
    exact ⟨c, hc, hbusy⟩
  unfold feed at hfeed
  split at hfeed
  -- Its attempt waits for the native side, or goes on.
  · obtain ⟨answer, -, rfl⟩ := Option.map_eq_some_iff.mp (congrArg Prod.fst hfeed)
    exact ⟨hattempt ‹_›, rfl⟩
  · cases hfeed
    exact ⟨hattempt ‹_›, rfl⟩
  · cases hfeed
    exact ⟨hattempt ‹_›, rfl⟩
  -- It prepares, opens a session, or does what needs no answer.
  · simp only at hfeed
    split at hfeed <;> cases hfeed
    · exact ⟨hcall ‹s.mountPhase? h n = some .preparing› nofun, rfl⟩
    · exact ⟨hcall ‹s.mountPhase? h n = some .registering› nofun, rfl⟩
    · rename_i hphase
      exact ⟨hcall hphase (by assumption), rfl⟩

section going

variable {role : Role} {input : Input} {fed : Hosts σ} {m : Nat}

theorem advanceAlone_of_done (hfeed : s.feed env h role = (none, fed)) :
    s.advanceAlone env h role (m + 1) = fed := by
  simp only [advanceAlone, hfeed]

theorem advanceAlone_of_step (hfeed : s.feed env h role = (some input, fed))
    (hstep : fed.step? h (.act role input) = some s') :
    s.advanceAlone env h role (m + 1) = s'.advanceAlone env h role m := by
  simp only [advanceAlone, hfeed, hstep]

theorem advanceAlone_of_blocked (hfeed : s.feed env h role = (some input, fed))
    (hstep : fed.step? h (.act role input) = none) :
    s.advanceAlone env h role (m + 1) = s := by
  simp only [advanceAlone, hfeed, hstep]

theorem advanceWithin_of_done (hfeed : s.feed env h role = (none, fed)) :
    s.advanceWithin env h role (m + 1) = fed := by
  simp only [advanceWithin, hfeed]

theorem advanceWithin_of_step (hfeed : s.feed env h role = (some input, fed))
    (hstep : fed.step? h (.act role input) = some s') :
    s.advanceWithin env h role (m + 1) = s'.advanceWithin env h role m := by
  simp only [advanceWithin, hfeed, hstep]

theorem advanceWithin_of_blocked (hfeed : s.feed env h role = (some input, fed))
    (hstep : fed.step? h (.act role input) = none) :
    s.advanceWithin env h role (m + 1) =
      (s.advanceListeners env h).advanceWithin env h role m := by
  simp only [advanceWithin, hfeed, hstep]

end going

/-- A listener goes on. -/
theorem plays_advanceAlone (env : Surroundings σ) (hs : s.Has h setup)
    (hengaged : Engaged n (s.world h)) (k m : Nat) :
    Plays setup h n s (s.advanceAlone env h (.listener k) m) ∧
      Engaged n ((s.advanceAlone env h (.listener k) m).world h) := by
  -- The induction is on the steps that are allowed. That the native loop waits is carried
  -- along, for a listener does not move the call to mount.
  induction m generalizing s with
  | zero => exact ⟨.refl hs, hengaged⟩
  | succ m ih =>
    have hplays : Plays setup h n s (s.feed env h (.listener k)).2 := plays_feed env hs _
    have hworld := world_feed env h (.listener k) s
    obtain ⟨input?, fed, hfeed⟩ : ∃ input? fed, s.feed env h (.listener k) = (input?, fed) :=
      ⟨_, _, rfl⟩
    rw [hfeed] at hplays hworld
    cases input? with
    | none =>
      rw [advanceAlone_of_done hfeed]
      exact ⟨hplays, hworld ▸ hengaged⟩
    | some input =>
      cases hstep : fed.step? h (.act (.listener k) input) with
      | none =>
        rw [advanceAlone_of_blocked hfeed hstep]
        exact ⟨.refl hs, hengaged⟩
      | some next =>
        rw [advanceAlone_of_step hfeed hstep]
        have hfed : Engaged n (fed.world h) := hworld ▸ hengaged
        have hone : Plays setup h n fed next :=
          .of_step hplays.has hfed (aside_listener k input) hstep
        obtain ⟨w, events, hw, rfl⟩ := (step?_eq_some_iff hplays.has).mp hstep
        have hafter : Engaged n ((fed.moved h setup w events).world h) := by
          rw [world_moved hplays.has]
          exact engaged_of_listener hw hfed
        obtain ⟨hmore, hend⟩ := ih hone.has hafter
        exact ⟨(hplays.trans hone).trans hmore, hend⟩

theorem plays_advanceListeners (env : Surroundings σ) (hs : s.Has h setup)
    (hengaged : Engaged n (s.world h)) :
    Plays setup h n s (s.advanceListeners env h) := by
  have hfold (ks : List Nat) : ∀ s : Hosts σ, s.Has h setup → Engaged n (s.world h) →
      Plays setup h n s
        (ks.foldl (fun s k => s.advanceAlone env h (.listener k) patience) s) := by
    induction ks with
    | nil =>
      intro s hs _
      exact .refl hs
    | cons k ks ih =>
      intro s hs hengaged
      obtain ⟨hplays, hafter⟩ := plays_advanceAlone env hs hengaged k patience
      exact hplays.trans (ih _ hplays.has hafter)
  exact hfold _ s hs hengaged

/-- A call to mount goes on, and the listeners while it waits for one. -/
theorem plays_advanceWithin (env : Surroundings σ) (hs : s.Has h setup) (m : Nat) :
    Plays setup h n s (s.advanceWithin env h (.mount n) m) := by
  -- Here a step may end with the native loop running, but then the call is fed nothing more.
  induction m generalizing s with
  | zero => exact .refl hs
  | succ m ih =>
    have hplays : Plays setup h n s (s.feed env h (.mount n)).2 := plays_feed env hs _
    have hworld := world_feed env h (.mount n) s
    obtain ⟨input?, fed, hfeed⟩ : ∃ input? fed, s.feed env h (.mount n) = (input?, fed) :=
      ⟨_, _, rfl⟩
    rw [hfeed] at hplays hworld
    cases input? with
    | none =>
      rw [advanceWithin_of_done hfeed]
      exact hplays
    | some input =>
      obtain ⟨hengaged, hinput⟩ := feed_mount hfeed
      cases hstep : fed.step? h (.act (.mount n) input) with
      | none =>
        rw [advanceWithin_of_blocked hfeed hstep]
        have hlisteners : Plays setup h n s (s.advanceListeners env h) :=
          plays_advanceListeners env hs hengaged
        exact hlisteners.trans (ih hlisteners.has)
      | some next =>
        rw [advanceWithin_of_step hfeed hstep]
        have hone : Plays setup h n fed next :=
          .of_step hplays.has (hworld ▸ hengaged) (aside_mount hinput) hstep
        exact (hplays.trans hone).trans (ih hone.has)

/-! ## Inputs -/

/-- A thread that is given an input goes on. -/
theorem act_of_step (env : Surroundings σ) (hs : s.Has h setup) {role : Role} {input : Input}
    {w : World} {events : List Event}
    (hstep : Host.step setup (.act role input) (s.world h) = some (w, events)) :
    s.act env h role input = (s.moved h setup w events).advance env h role := by
  have hmoved : s.step? h (.act role input) = some (s.moved h setup w events) :=
    (step?_eq_some_iff hs).mpr ⟨w, events, hstep, rfl⟩
  simp only [act, hmoved]

/-- A call to mount is given an input that is not one of the native loop, and goes on. -/
theorem plays_act (env : Surroundings σ) (hs : s.Has h setup) {input : Input}
    (hinput : input.fromLoop = false) :
    Plays setup h n s (s.act env h (.mount n) input) := by
  unfold act
  cases hstep : s.step? h (.act (.mount n) input) with
  | none => exact .refl hs
  | some next =>
    have hone : Plays setup h n s next := by
      obtain ⟨w, events, hw, -⟩ := (step?_eq_some_iff hs).mp hstep
      exact .of_step hs (engaged_of_step hinput hw) (aside_mount hinput) hstep
    exact hone.trans (plays_advanceWithin env hone.has patience)

/-- An implementation is told of the mount. -/
theorem plays_attend {R : Type} (env : Surroundings σ) (hs : s.Has h setup)
    (course : Exchange σ UnmountRequest R) :
    Plays setup h n s (attend env h n course s).2 := by
  -- Whatever the implementation asks for is an attempt to unmount.
  induction course generalizing s with
  | done result state => exact .of_same hs rfl rfl (List.append_nil _).symm
  | ask question state resume ih =>
    have hput : Plays setup h n s { s with state } :=
      .of_same hs rfl rfl (List.append_nil _).symm
    have hact : Plays setup h n s (act env h (.mount n) .callUnmount { s with state }) :=
      hput.trans (plays_act env hput.has rfl)
    exact hact.trans (ih _ _ hact.has)

theorem plays_finishTelling (env : Surroundings σ) (operation : String)
    {told : Except Failure Unit × Hosts σ} (hs : told.2.Has h setup) :
    Plays setup h n told.2 (finishTelling env h n operation told) := by
  unfold finishTelling
  have hreport (since : List Event) :
      Plays setup h n told.2 { told.2 with events := told.2.events ++ since } :=
    .of_same hs rfl rfl rfl
  exact (hreport _).trans (plays_act env (hreport _).has rfl)

end Hosts

end HostedFs.Host
