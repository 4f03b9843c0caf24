import HostedFs.Proofs.Host.Pausing

/-! # What the native loop calls for

    The native loop of a mount calls for the start of the filesystem and for its end. At the
    start the features of the connection are settled, the record learns of the mount, a
    listener is armed and the implementation is told; at the end the implementation is told
    first.

    * `Connection.withOpenTrunc`: the connection that comes back.
    * `starts_callInit`, `ends_callDestroy`: the stages that are passed.
    * `returns_callInit`, `returns_callDestroy`: on a calm host the loop goes on, and the host
      is calm again.
    * `callbacks_leave`: what a start and an end leave.
-/

namespace HostedFs

/-! ## Features -/

/-- The bit of the offer to truncate when a file is opened. -/
def openTruncBit : UInt32 :=
  8

/-- Truncation when a file is opened is offered and configured. -/
def Connection.OffersOpenTrunc (settings : HostSettings) (conn : Connection) : Prop :=
  conn.capable &&& openTruncBit ≠ 0 ∧ settings.openTrunc

instance (settings : HostSettings) (conn : Connection) :
    Decidable (conn.OffersOpenTrunc settings) :=
  inferInstanceAs (Decidable (_ ∧ _))

/-- The connection that comes back: its one bit is wanted, too, if it is offered and
    configured. -/
def Connection.withOpenTrunc (settings : HostSettings) (conn : Connection) : Connection :=
  if conn.OffersOpenTrunc settings then { conn with want := conn.want ||| openTruncBit } else conn

/-- Nothing else that can be asked for is granted, and null offers nothing. -/
theorem settle_requested (settings : HostSettings) (connection : Option Connection) :
    Connection.settle settings.requested connection =
      ({ openTrunc := connection.any fun conn => conn.OffersOpenTrunc settings },
        connection.map (Connection.withOpenTrunc settings)) := by
  cases connection with
  | none => rfl
  | some conn =>
    have hbit : Offer.openTrunc = openTruncBit := rfl
    by_cases hoffered : conn.capable &&& openTruncBit = 0 <;>
      cases hasked : settings.openTrunc <;>
      simp [Connection.settle, Platform.current, negotiate_posix, Offer.has, Offer.wanted,
        HostSettings.requested, Connection.withOpenTrunc, Connection.OffersOpenTrunc, hbit,
        hoffered, hasked]

namespace Host.Hosts

variable {σ : Type} (env : Surroundings σ) {s : Hosts σ} {setup : Setup} {h n : Nat}
  {c : MountCall}

theorem settings?_of_has (hs : s.Has h setup) : s.settings? h = some setup.settings := by
  simp [settings?, hs.member]

theorem mountPhase?_of_mounts (hc : (s.host h).mounts n = some c) :
    s.mountPhase? h n = some c.phase := by
  rw [mountPhase?, hc, Option.map_some]

/-- The native loop calls for something, and the implementation is told. -/
theorem plays_callback (hs : s.Has h setup) {input : Input} {w : World}
    (hstep : Host.step setup (.act (.mount n) input) (s.world h) = some (w, []))
    (respond : Hosts σ → Exchange σ UnmountRequest (Except Failure Unit)) (operation : String) :
    ∃ told since,
      Meanwhile setup n w told ((finishTelling env h n operation (attend env h n
        (respond (s.act env h (.mount n) input)) (s.act env h (.mount n) input))).world h) ∧
      (finishTelling env h n operation (attend env h n
        (respond (s.act env h (.mount n) input)) (s.act env h (.mount n) input))).events =
          s.events ++ since ∧ told ⊆ since := by
  have hplays : Plays setup h n (s.moved h setup w []) (s.act env h (.mount n) input) := by
    rw [act_of_step env hs hstep]
    exact plays_advanceWithin env (has_moved hs w []) patience
  have htold := hplays.trans (plays_attend env hplays.has (respond (s.act env h (.mount n) input)))
  have hended := htold.trans (plays_finishTelling env operation htold.has)
  obtain ⟨told, since, hmeanwhile, hevents, hsince⟩ := hended.comes
  rw [world_moved hs] at hmeanwhile
  refine ⟨told, since, hmeanwhile, ?_, hsince⟩
  rw [hevents]
  simp [moved]

/-- The world in which the features of a connection are settled. -/
def settled (s : Hosts σ) (h : Nat) (setup : Setup) (connection : Option Connection) : World :=
  { s.world h with host := { s.host h with
    negotiated := (Connection.settle setup.settings.requested connection).1 } }

theorem mountStep_callInit (hphase : c.phase = .running) (session : Session)
    (connection : Option Connection) :
    mountStep setup n c (.callInit session connection) (s.world h) =
      some ((s.settled h setup connection).putMount n { c with phase := .starting session false },
        []) := by
  simp only [mountStep, hphase]
  rfl

theorem mountStep_callDestroy (hphase : c.phase = .running) :
    mountStep setup n c .callDestroy (s.world h) =
      some ((s.world h).putMount n { c with phase := .destroying none }, []) := by
  simp only [mountStep, hphase]

section called

variable (hs : s.Has h setup) (hc : (s.host h).mounts n = some c) (hphase : c.phase = .running)
  (context : Native.Context)

include hs hc hphase

/-! ## Stages -/

/-- The features of the connection are settled, and then a start passes its stages. -/
theorem starts_callInit (connection : Option Connection) :
    ∃ told since, StartsSince n c ⟨context.session⟩ (s.settled h setup connection) told
        ((s.callInit env h n context connection).2.world h) ∧
      (s.callInit env h n context connection).2.events = s.events ++ since ∧ told ⊆ since := by
  have hstep : Host.step setup (.act (.mount n) (.callInit ⟨context.session⟩ connection))
      (s.world h) = some ((s.settled h setup connection).putMount n
        { c with phase := .starting ⟨context.session⟩ false }, []) := by
    have hcall : (s.world h).host.mounts n = some c := hc
    rw [Host.step, hcall]
    exact mountStep_callInit hphase ⟨context.session⟩ connection
  obtain ⟨told, since, hmeanwhile, hevents, hsince⟩ := plays_callback env hs hstep
    (fun s => (env.fileSystem h (s.host h).record).respond (some context.caller) .init s.state)
    "init"
  have hstarts : StartsSince n { c with phase := .starting ⟨context.session⟩ false }
      ⟨context.session⟩ _ told _ := starts_meanwhile (if_pos rfl) rfl hmeanwhile
  exact ⟨told, since, ⟨hstarts.call, hstarts.negotiated, hstarts.mountpoint⟩, hevents, hsince⟩

/-- An end passes its stages. -/
theorem ends_callDestroy (hshown : Shown (s.host h).record) :
    EndsSince n c (s.world h) ((s.callDestroy env h n context).world h) := by
  have hstep : Host.step setup (.act (.mount n) .callDestroy) (s.world h) =
      some ((s.world h).putMount n { c with phase := .destroying none }, []) := by
    have hcall : (s.world h).host.mounts n = some c := hc
    rw [Host.step, hcall]
    exact mountStep_callDestroy hphase
  obtain ⟨told, since, hmeanwhile, -, -⟩ := plays_callback env hs hstep
    (fun s => (env.fileSystem h (s.host h).record).respond (some context.caller) .destroy s.state)
    "destroy"
  have hends : EndsSince n { c with phase := .destroying none } _ _ :=
    ends_meanwhile (if_pos rfl) rfl hshown hmeanwhile
  obtain ⟨⟨hsession, hmountpoint, hnegotiated, hlistener, hminds⟩, hcall⟩ := hends
  exact ⟨⟨hsession, hmountpoint, hnegotiated, hlistener, hminds⟩, hcall⟩

/-! ## Returns -/

section returns

variable (hcalm : Calm setup (s.world h)) (henv : env.Answers h)

include hcalm henv

/-- On a calm host the implementation is told and the native loop goes on, and then the host
    is calm again. -/
theorem returns_callback {input : Input} {v : World} (next : MountPhase)
    (hnext : mountStep setup n c input (s.world h) =
      some (v.putMount n { c with phase := next }, []))
    (hcourse : next.OnCourse v.host)
    (hgoal : next.goal = .initializing none ∨ next.goal = .destroying none)
    (respond : Hosts σ → Exchange σ UnmountRequest (Except Failure Unit)) (operation : String) :
    let after := finishTelling env h n operation (attend env h n
      (respond (s.act env h (.mount n) input)) (s.act env h (.mount n) input))
    after.mountPhase? h n = some .running ∧ Calm setup (after.world h) := by
  intro after
  have hunderway : Underway setup h n s c := ⟨hs, hcalm.alone n, hc, by rw [hphase]; trivial⟩
  obtain ⟨c₁, hs₁, hphase₁⟩ := hunderway.act henv next hnext hcourse
  rw [← hphase₁] at hgoal
  obtain ⟨c₂, hs₂, hphase₂⟩ := hs₁.attend henv hgoal (respond (s.act env h (.mount n) input))
  rw [← hphase₂] at hgoal
  obtain ⟨c₃, hs₃, hphase₃⟩ := hs₂.finishTelling henv operation hgoal
  refine ⟨?_, hs₃.calm (by rw [hphase₃]; trivial)⟩
  rw [← hphase₃]
  exact mountPhase?_of_mounts hs₃.call

theorem returns_callInit (connection : Option Connection) :
    (s.callInit env h n context connection).2.mountPhase? h n = some .running ∧
      Calm setup ((s.callInit env h n context connection).2.world h) :=
  returns_callback env hs hc hphase hcalm henv (.starting ⟨context.session⟩ false)
    (mountStep_callInit hphase ⟨context.session⟩ connection) trivial (.inl rfl)
    (fun s => (env.fileSystem h (s.host h).record).respond (some context.caller) .init s.state)
    "init"

theorem returns_callDestroy :
    (s.callDestroy env h n context).mountPhase? h n = some .running ∧
      Calm setup ((s.callDestroy env h n context).world h) :=
  returns_callback env hs hc hphase hcalm henv (.destroying none)
    (mountStep_callDestroy hphase) trivial (.inr rfl)
    (fun s => (env.fileSystem h (s.host h).record).respond (some context.caller) .destroy s.state)
    "destroy"

end returns

end called

/-- What `callInit` and `callDestroy` leave, whatever the configuration, the connection and the
    implementation, and whatever goes on at the host meanwhile.

    The `reply` wants the bit for truncation, too, if and only if it is offered and configured,
    and `mountPointer` is the token's. When the loop goes on after `callInit`, only that feature
    is `negotiated`, and in just this case; the record has the session of the `context` and the
    mountpoint it had, and says `mounted`, or `unmounting` if an attempt reported `since` has
    claimed the mount. When it goes on after `callDestroy` of a mounted filesystem, the record
    says `unmounting` and the listener was told to stop (`Disarmed`). It does go on in both cases
    if the host was `Calm` and the environment `Answers` what is asked of it. -/
theorem callbacks_leave (s : Hosts σ) {h n : Nat} {setup : Setup} {c : MountCall} {token : Token}
    (context : Native.Context) (connection : Option Connection) (hs : s.Has h setup)
    (hc : (s.host h).mounts n = some c) (hphase : c.phase = .running)
    (htoken : c.token = some token) :
    let reply := (s.callInit env h n context connection).1
    let started := (s.callInit env h n context connection).2
    let ended := s.callDestroy env h n context
    reply = connection.map (Connection.withOpenTrunc setup.settings) ∧
    started.mountPointer h n = token.toPointer ∧
    (started.mountPhase? h n = some .running →
      (started.host h).negotiated =
        { openTrunc := connection.any fun conn => conn.OffersOpenTrunc setup.settings } ∧
      (started.host h).record.session = ⟨context.session⟩ ∧
      (started.host h).record.mountpoint = (s.host h).record.mountpoint ∧
      ∃ since, started.events = s.events ++ since ∧
        MountedOrClaimed since (started.host h).record) ∧
    ((s.host h).record.state = .mounted → ended.mountPhase? h n = some .running →
      (ended.host h).record.state = .unmounting ∧
      (ended.host h).listener = (s.host h).listener ∧ Disarmed (s.host h) (ended.host h)) ∧
    (Calm setup (s.world h) → env.Answers h →
      started.mountPhase? h n = some .running ∧ ended.mountPhase? h n = some .running) := by
  intro reply started ended
  -- `StartsSince` says how far the start has come, and what it has left alone.
  obtain ⟨told, since, hstarts, hevents, hsince⟩ :=
    starts_callInit env hs hc hphase context connection
  obtain ⟨phase, hcall, hbegan⟩ := hstarts.call
  have hsettle := settle_requested setup.settings connection
  have hmounts : (started.host h).mounts n = some { c with phase } := hcall
  refine ⟨?_, ?_, ?_, ?_, ?_⟩
  · -- The connection is settled in the same step that begins the start.
    show (Connection.settle (((s.settings? h).map HostSettings.requested).getD {}) connection).2 = _
    rw [settings?_of_has hs, Option.map_some, Option.getD_some, hsettle]
  · -- No stage takes the token.
    show ((((started.host h).mounts n).bind MountCall.token).map Token.toPointer).getD 0 = _
    rw [hmounts, Option.bind_some, htoken, Option.map_some, Option.getD_some]
  · -- A start that is over has passed all of its stages.
    intro hreturned
    obtain rfl : phase = .running := by
      rw [mountPhase?_of_mounts hmounts] at hreturned
      exact Option.some.inj hreturned
    obtain ⟨hsession, hclaimed⟩ := hbegan
    refine ⟨hstarts.negotiated.trans (congrArg Prod.fst hsettle), hsession, hstarts.mountpoint,
      since, hevents, ?_⟩
    exact hclaimed.imp_right fun hunmounting => ⟨hunmounting.1, hsince hunmounting.2⟩
  · -- So has an end.
    intro hmounted hreturned
    obtain ⟨hlasts, phase, hmounts, hending⟩ :=
      ends_callDestroy env hs hc hphase context (.inl hmounted)
    have hcall : (ended.host h).mounts n = some { c with phase } := hmounts
    obtain rfl : phase = .running := by
      rw [mountPhase?_of_mounts hcall] at hreturned
      exact Option.some.inj hreturned
    exact ⟨hending.1, hlasts.listener, hending.2⟩
  · intro hcalm henv
    -- Nothing is in the way of a calm host, so both callbacks come to an end.
    exact ⟨(returns_callInit env hs hc hphase context hcalm henv connection).1,
      (returns_callDestroy env hs hc hphase context hcalm henv).1⟩

/-- Surroundings in which an implementation does so when it is told of the mount, and the native
    side unmounts at once. -/
def telling (init : Exchange Unit UnmountRequest (Except Failure Unit)) : Surroundings Unit where
  fileSystem _ _ :=
    { respond := fun _ c s =>
        match c with
        | .init => init
        | c => .done c.unimplemented s }
  prepare _ s := (none, s, [])
  unmount _ _ _ s := (some true, s)
  notify _ _ _ _ s := (true, s)
  now := .zero

/-- Hosts of which one runs a native loop on `/m`. -/
def looping (setup : Setup) (record : MountRecord) (process : Process) (host : Host) :
    Hosts Unit where
  process := process
  members := [(setup, { host with
    record
    mounts := fun n => if n = 0 then some ⟨"/m", [], .running, some (.nth 0)⟩ else none })]
  state := ()

/-- A host that is mounted, and whose listener waits. -/
def guarding : Hosts Unit :=
  looping
    { plain with
      settings := { programName := "prog", openTrunc := true }, nativeNeedsSignals := true }
    ⟨.mounted, ⟨4096⟩, some "/m"⟩
    { bridge := { slots := some ⟨(0, 0), []⟩ :: List.replicate 31 none, active := 1 } }
    { listener := some 0
      listeners := fun k =>
        if k = 0 then some { slot := 0, phase := .waiting, ready := some (.ok ()) } else none
      nextListener := 1 }

/-- Nobody is in its way. -/
theorem calm_guarding : Calm
    { plain with
      settings := { programName := "prog", openTrunc := true }, nativeNeedsSignals := true }
    (guarding.world 0) where
  numbered k hk := if_neg (Nat.ne_of_gt hk)
  locks lock := by cases lock <;> rfl
  gate := rfl
  listeners k l hl := by
    have hone : (if k = 0 then some _ else none) = some l := hl
    obtain ⟨-, hwaiting⟩ := Option.ite_none_right_eq_some.mp hone
    rw [← Option.some.inj hwaiting]
    trivial
  unread := by
    refine Signal.Bridge.unread_of_slots fun wake hwake => ?_
    rcases List.mem_cons.mp hwake with hfirst | hrest
    · rw [Option.some.inj hfirst]
    · cases List.eq_of_mem_replicate hrest

/-- The implementation panics when it is told of the mount. -/
theorem callbacks_leave_panicking :
    let env := telling (.done (.error (.panicked none)) ())
    let context : Native.Context := { session := 8192, privateData := 64 }
    let connection : Connection := { capable := 0xffffffff, want := 0x21 }
    (guarding.callInit env 0 0 context (some connection)).1 =
        some { connection with want := 0x29 } ∧
      (guarding.callInit env 0 0 context (some connection)).2.mountPhase? 0 0 = some .running ∧
      ((guarding.callInit env 0 0 context (some connection)).2.host 0).record.session =
        ⟨context.session⟩ ∧
      ((guarding.callDestroy env 0 0 context).host 0).record.state = .unmounting ∧
      Disarmed (guarding.host 0) ((guarding.callDestroy env 0 0 context).host 0) := by
  intro env context connection
  have henv : env.Answers 0 := fun _ _ _ => ⟨true, rfl⟩
  obtain ⟨hreply, -, hstarted, hended, hreturns⟩ := callbacks_leave env guarding (h := 0) (n := 0)
    context (some connection) ⟨_, rfl⟩ rfl rfl rfl
  obtain ⟨hreturned, hreturned'⟩ := hreturns calm_guarding henv
  obtain ⟨-, hsession, -⟩ := hstarted hreturned
  obtain ⟨hunmounting, -, hdisarmed⟩ := hended rfl hreturned'
  exact ⟨hreply.trans (by decide), hreturned, hsession, hunmounting, hdisarmed⟩

/-- An implementation that unmounts when it is told of the mount. -/
theorem init_may_unmount :
    let loop := looping plain ⟨.mounting, .none, some "/m"⟩ {} {}
    let env := telling (.ask .mk () fun _ s => .done (.ok ()) s)
    let started := (loop.callInit env 0 0 { session := 4096, privateData := 64 } none).2
    started.mountPhase? 0 0 = some .running ∧ (started.host 0).record.state ≠ .mounted := by
  decide

end Host.Hosts

end HostedFs
