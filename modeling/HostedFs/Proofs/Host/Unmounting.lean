import HostedFs.Proofs.Host.Gate
import HostedFs.Proofs.Host.Quiet
import HostedFs.Proofs.Host.Threads

/-! # Attempts to unmount

    What an attempt to unmount comes to is settled when it looks at the record:
    it is refused, or it claims the mount and asks the native side once.

    * `Accounted`, `accounted_run`: what an attempt has done since it looked at
      the record, phase by phase.
    * `unmounted_after_success`: after an attempt that succeeds, the host is not
      mounted until a filesystem is started.
    * `Unstarted`, `unstarted_run`: a mount is mounted only after the native side
      has called for its start.
    * `unmount_outcome`: what follows for all attempts of a run.
-/

namespace HostedFs.Host

variable {setup : Setup}

/-! ## The history of an attempt -/

/-- In the course of a run, a thread looked at the record, found the host as in
    the world `seen`, and was given `since` after that. -/
def Looked (setup : Setup) (w₀ : World) (labels : List Label) (r : Role) (seen : World)
    (since : List Input) : Prop :=
  ∃ before after told, labels = before ++ .act r .go :: after ∧
    run setup before w₀ = some (seen, told) ∧ attempt? seen.host r = some (.checking true) ∧
    inputs r after = since

theorem Looked.concat {w₀ : World} {labels : List Label} {r : Role} {seen : World}
    {since : List Input} (h : Looked setup w₀ labels r seen since) (label : Label) :
    Looked setup w₀ (labels ++ [label]) r seen (since ++ inputs r [label]) := by
  obtain ⟨before, after, told, rfl, hrun, hseen, rfl⟩ := h
  exact ⟨before, after ++ [label], told, by simp, hrun, hseen, inputs_append ..⟩

/-- How the result of an attempt follows from the host as in the world `seen`,
    where it looked at the record, and from what it was given `since`. -/
structure Settled (seen : World) (since : List Input) (result : Bool) : Prop where
  success : result = true ↔ seen.host.record.state = .mounted ∧ since = [.answered true]
  asked : seen.host.record.state = .mounted →
    since = [.answered true] ∨ since = [.answered false, .go, .go]
  refused : seen.host.record.state ≠ .mounted → since = []

/-- What an attempt has done since it looked at the record. -/
def Accounted (setup : Setup) (w₀ : World) (labels : List Label) (r : Role) : UnmountPhase → Prop
  | .atGate | .checking _ => True
  | .calling session mountpoint => ∃ seen, Looked setup w₀ labels r seen [] ∧
      seen.host.record = ⟨.mounted, session, mountpoint⟩
  | .restoring _ held => ∃ seen,
      Looked setup w₀ labels r seen (.answered false :: if held then [.go] else []) ∧
        seen.host.record.state = .mounted
  | .leaving result => ∃ seen since, Looked setup w₀ labels r seen since ∧
      Settled seen since result

theorem accounted_of_other {w₀ : World} {labels : List Label} {r : Role} {phase : UnmountPhase}
    {label : Label} (hother : ∀ input, label ≠ .act r input)
    (h : Accounted setup w₀ labels r phase) : Accounted setup w₀ (labels ++ [label]) r phase := by
  have hlooked {seen : World} {since : List Input} (hl : Looked setup w₀ labels r seen since) :
      Looked setup w₀ (labels ++ [label]) r seen since := by
    have hmore := hl.concat label
    rwa [inputs_cons_of_ne hother, inputs_nil, List.append_nil] at hmore
  cases phase with
  | atGate | checking => trivial
  | calling =>
    obtain ⟨seen, hl, hstate⟩ := h
    exact ⟨seen, hlooked hl, hstate⟩
  | restoring =>
    obtain ⟨seen, hl, hstate⟩ := h
    exact ⟨seen, hlooked hl, hstate⟩
  | leaving =>
    obtain ⟨seen, since, hl, hsince⟩ := h
    exact ⟨seen, since, hlooked hl, hsince⟩

theorem accounted_turn {w₀ v : World} {labels : List Label} {early : List Event} {r : Role}
    {phase phase' : UnmountPhase} {input : Input} {o' : Outline}
    (hrun : run setup labels w₀ = some (v, early)) (hv : attempt? v.host r = some phase)
    (turn : AttemptTurn r phase input v.outline o') (h' : o'.attempt r = some phase')
    (h : Accounted setup w₀ labels r phase) :
    Accounted setup w₀ (labels ++ [.act r input]) r phase' := by
  have hlook : phase = .checking true → input = .go →
      Looked setup w₀ (labels ++ [.act r input]) r v [] := by
    intro heq heq'
    subst heq
    subst heq'
    exact ⟨labels, [], early, rfl, hrun, hv, rfl⟩
  have hmore {seen : World} {since : List Input} (hl : Looked setup w₀ labels r seen since) :
      Looked setup w₀ (labels ++ [.act r input]) r seen (since ++ [input]) := by
    have hmore := hl.concat (.act r input)
    rwa [inputs_act_self, inputs_nil] at hmore
  -- Each step of the attempt says where it goes next.
  cases turn <;> rw [Outline.setAttempt_attempt, if_pos rfl] at h' <;> cases h'
  case pass | look => trivial
  case claim mounted =>
    refine ⟨v, hlook rfl rfl, ?_⟩
    show _ = MountRecord.mk .mounted v.host.record.session v.host.record.mountpoint
    rw [← mounted]
    rfl
  case refuse other =>
    exact ⟨v, [], hlook rfl rfl, by simp, fun mounted => absurd mounted other, fun _ => rfl⟩
  case succeed =>
    obtain ⟨seen, hl, hstate⟩ := h
    exact ⟨seen, _, hmore hl, by simp [hstate], fun _ => .inl rfl,
      fun hne => by simp [hstate] at hne⟩
  case fail =>
    obtain ⟨seen, hl, hstate⟩ := h
    exact ⟨seen, hmore hl, by rw [hstate]⟩
  case lookAgain =>
    obtain ⟨seen, hl, hstate⟩ := h
    exact ⟨seen, hmore hl, hstate⟩
  case restore =>
    obtain ⟨seen, hl, hstate⟩ := h
    exact ⟨seen, _, hmore hl, by simp, fun _ => .inr rfl, fun hne => absurd hstate hne⟩
  case giveUp =>
    obtain ⟨seen, hl, hstate⟩ := h
    exact ⟨seen, _, hmore hl, by simp, fun _ => .inr rfl, fun hne => absurd hstate hne⟩

theorem accounted_run {p : Process} {labels : List Label} {w : World} {events : List Event}
    (h : run setup labels ⟨p, {}⟩ = some (w, events)) :
    ∀ r phase, attempt? w.host r = some phase → Accounted setup ⟨p, {}⟩ labels r phase := by
  refine outline_induction (P := fun labels o => ∀ r phase, o.attempt r = some phase →
    Accounted setup ⟨p, {}⟩ labels r phase) ?_ ?_ h
  · intro r phase hr
    cases hr
  · intro labels v early label w late hrun ih hstep hmove r phase hr
    rcases hmove.attempt_cases hr with ⟨hsame, hother⟩ | rfl | ⟨old, input, rfl, hold, turn⟩
    · exact accounted_of_other hother (ih r phase hsame)
    · trivial
    · exact accounted_turn hrun hold turn hr (ih r old hold)

/-! ## Calls that are over -/

theorem unmountStep_finished {r : Role} {phase : UnmountPhase} {input : Input} {w w' : World}
    {result : Bool} {events : List Event}
    (h : unmountStep r phase input w = some (.finished result, w', events)) :
    phase = .leaving result ∧ input = .go := by
  cases unmountStep_deed h with
  | leave => exact ⟨rfl, rfl⟩

/-- A call to unmount that is over was so before, or has just left with its
    result. -/
theorem finished_back {label : Label} {v w : World} {told : List Event} {n : Nat} {result : Bool}
    (hv : Numbered v) (h : step setup label v = some (w, told))
    (hfinished : w.host.unmounts n = some (.finished result)) :
    (v.host.unmounts n = some (.finished result) ∧ ∀ input, label ≠ .act (.unmount n) input) ∨
      (label = .act (.unmount n) .go ∧ v.host.unmounts n = some (.running (.leaving result))) := by
  cases step_deed h with
  | mount | deliver | ignore => exact .inl ⟨hfinished, fun _ heq => by cases heq⟩
  | @unmount m fresh =>
    by_cases hnm : n = m
    · subst hnm
      simp [World.putUnmount] at hfinished
    · simp only [World.putUnmount, if_neg hnm] at hfinished
      exact .inl ⟨hfinished, fun _ heq => by cases heq⟩
  | mounting known goes =>
    -- Calls to mount and listeners leave the calls to unmount alone.
    obtain ⟨u, c', rfl, hshared, -⟩ := mountStep_shared hv goes
    refine .inl ⟨?_, fun _ heq => by cases heq⟩
    rw [← hshared.unmounts]
    exact hfinished
  | listening known goes =>
    obtain ⟨u, l', rfl, -, hshared⟩ := listenerStep_shared goes
    refine .inl ⟨?_, fun _ heq => by cases heq⟩
    rw [← hshared.unmounts]
    exact hfinished
  | @unmounting m _ _ _ x _ known goes =>
    have hshared : Shared setup _ _ _ v x := unmountStep_shared goes
    by_cases hnm : n = m
    · subst hnm
      simp only [World.putUnmount, if_true, Option.some.injEq] at hfinished
      -- The call itself has just left.
      subst hfinished
      obtain ⟨rfl, rfl⟩ := unmountStep_finished goes
      exact .inr ⟨rfl, known⟩
    · simp only [World.putUnmount, if_neg hnm, hshared.unmounts] at hfinished
      refine .inl ⟨hfinished, fun _ heq => ?_⟩
      cases heq
      exact hnm rfl

/-- The result of a call that is over follows from how it found the record. -/
theorem settled_of_finished {p : Process} {labels : List Label} {w : World}
    {events : List Event} (h : run setup labels ⟨p, {}⟩ = some (w, events)) (n : Nat)
    (result : Bool) (hfinished : w.host.unmounts n = some (.finished result)) :
    ∃ seen since, Looked setup ⟨p, {}⟩ labels (.unmount n) seen (since ++ [.go]) ∧
      Settled seen since result := by
  refine run_induction (P := fun labels w _ => w.host.unmounts n = some (.finished result) →
    ∃ seen since, Looked setup ⟨p, {}⟩ labels (.unmount n) seen (since ++ [.go]) ∧
      Settled seen since result) (fun hnone => by cases hnone) ?_ h hfinished
  intro labels v early label w late hrun ih hstep hfinished
  rcases finished_back (numbered_run hrun) hstep hfinished with ⟨hbefore, hother⟩ | ⟨rfl, hleaving⟩
  · obtain ⟨seen, since, hlooked, hsettled⟩ := ih hbefore
    have hmore := hlooked.concat label
    rw [inputs_cons_of_ne hother, inputs_nil, List.append_nil] at hmore
    exact ⟨seen, since, hmore, hsettled⟩
  · have hattempt : attempt? v.host (.unmount n) = some (.leaving result) := by
      simp [attempt?, hleaving]
    obtain ⟨seen, since, hlooked, hsettled⟩ := accounted_run hrun _ _ hattempt
    -- Its last step is to give the gate back.
    have hmore := hlooked.concat (.act (.unmount n) .go)
    rw [inputs_act_self, inputs_nil] at hmore
    exact ⟨seen, since, hmore, hsettled⟩

/-! ## After an attempt that succeeds -/

/-- A thread is about to claim the mount. -/
def AboutToClaim (w : World) (r : Role) : Prop :=
  attempt? w.host r = some (.checking true) ∧ w.host.record.state = .mounted

instance (w : World) (r : Role) : Decidable (AboutToClaim w r) :=
  inferInstanceAs (Decidable (_ ∧ _))

/-- What the step that claims the mount leaves behind. -/
theorem claim_turn {w : World} {r : Role} {o' : Outline} (h : AboutToClaim w r)
    (turn : AttemptTurn r (.checking true) .go w.outline o') :
    o'.record.state = .unmounting ∧ o'.mounts = w.outline.mounts ∧
      o'.attempt r =
        some (.calling w.host.record.session w.host.record.mountpoint) := by
  generalize hphase : UnmountPhase.checking true = phase at turn
  cases turn with
  | claim => exact ⟨rfl, rfl, by rw [Outline.setAttempt_attempt, if_pos rfl]; rfl⟩
  | refuse other => exact absurd h.2 other
  | _ => cases hphase

/-- The step that claims the mount leaves the host quiet if the attempt is not
    told that it failed. -/
theorem quiet_of_claim {w : World} {r : Role} {after : List Label} {o' : Outline}
    (h : AboutToClaim w r) (turn : AttemptTurn r (.checking true) .go w.outline o')
    (hguard : Guarded o') (hsuccess : (inputs r after).head? = some (.answered true)) :
    Quiet after o' := by
  obtain ⟨hstate, -, hcalling⟩ := claim_turn h turn
  constructor
  · rw [hstate]
    nofun
  · intro _ s phase hs hclaims
    have hpast : phase ≠ .atGate := by
      intro heq
      subst heq
      cases hclaims
    -- Nobody else is past the gate.
    obtain rfl := eq_of_past_gate hguard hs hcalling hpast nofun
    cases hs.symm.trans hcalling
    exact ⟨⟨_, _, rfl⟩, by rw [hsuccess]; nofun⟩

/-- A quiet host stays quiet until a filesystem is started. -/
theorem quiet_run {p : Process} {before after : List Label} {v w : World}
    {early late : List Event} (hbefore : run setup before ⟨p, {}⟩ = some (v, early))
    (hquiet : Quiet after v.outline) (hafter : run setup after v = some (w, late))
    (hno : ¬ Started late) : Quiet [] w.outline := by
  have hall := induction_from hbefore (P := fun done w late => ∀ rest, after = done ++ rest →
      ¬ Started late → Quiet rest w.outline) ?_ ?_ hafter
  · exact hall [] (List.append_nil _).symm hno
  · intro rest heq _
    subst heq
    exact hquiet
  · -- What is still to come gets shorter by the label of the step.
    intro done x mid label y told hrun ih hstep hmove rest hrest hno
    rw [started_append, not_or] at hno
    exact quiet_move (ih (label :: rest) (by simpa using hrest) hno.1) hmove
      (fun hstarts => hno.2 (started_of_starts hstarts hstep))

/-! ## Calls for the start of a filesystem -/

/-- The native side calls for the start of the filesystem. -/
def Input.isInit : Input → Bool
  | .callInit .. => true
  | _ => false

/-- How often the native side has called for the start of the filesystem. -/
def inits (given : List Input) : Nat :=
  given.countP Input.isInit

theorem Input.isInit_of_not_fromLoop {input : Input} (h : input.fromLoop = false) :
    input.isInit = false := by
  cases input <;> first | rfl | cases h

theorem inits_concat {input : Input} (h : input.isInit = false) (given : List Input) :
    inits (given ++ [input]) = inits given := by
  simp [inits, h]

theorem inits_append (given more : List Input) : inits (given ++ more) = inits given + inits more :=
  List.countP_append

theorem inits_inputs {r : Role} {label : Label}
    (h : ∀ input, label = .act r input → input.fromLoop = false) (given : List Input) :
    inits (given ++ inputs r [label]) = inits given := by
  rcases inputs_cases r label with ⟨input, rfl, hgiven⟩ | hgiven
  · rw [hgiven]
    exact inits_concat (Input.isInit_of_not_fromLoop (h input rfl)) given
  · rw [hgiven, List.append_nil]

/-- The filesystem is being started. -/
def MountPhase.starts : MountPhase → Bool
  | .starting .. => true
  | _ => false

/-- Before the first call for the start of its filesystem has come through, a
    mount is not mounted. -/
structure Unstarted (given : List Input) (o : Outline) (c : MountCall) : Prop where
  called : c.phase.starts.toNat ≤ inits given
  fresh : c.phase.owns → inits given ≤ c.phase.starts.toNat → o.record.state = .mounting

theorem Unstarted.iff_of_inits {given more : List Input} {o : Outline} {c : MountCall}
    (h : inits more = inits given) : Unstarted more o c ↔ Unstarted given o c := by
  constructor
  · intro hbefore
    obtain ⟨hcalled, hfresh⟩ := hbefore
    exact ⟨h ▸ hcalled, h ▸ hfresh⟩
  · intro hbefore
    obtain ⟨hcalled, hfresh⟩ := hbefore
    exact ⟨h.symm ▸ hcalled, h.symm ▸ hfresh⟩

theorem unstarted_progress {c : MountCall} {phase : MountPhase} {input : Input}
    {given : List Input} {o o' : Outline} (hprogress : Progress setup c c.phase input phase)
    (hrecord : o'.record = o.record) (h : Unstarted given o c) :
    Unstarted (given ++ [input]) o' { c with phase } := by
  obtain ⟨hcalled, hfresh⟩ := h
  rw [← congrArg MountRecord.state hrecord] at hfresh
  have howns := hprogress.owns_eq
  -- All but `callInit` leave the count of starts and the phases that follow a start.
  have hkept (hinput : input.isInit = false) (hstarts : phase.starts = c.phase.starts) :
      Unstarted (given ++ [input]) o' { c with phase } := by
    rw [Unstarted.iff_of_inits (inits_concat hinput given)]
    constructor
    · rw [hstarts]
      exact hcalled
    · rw [hstarts, howns]
      exact hfresh
  generalize c.phase = old at hprogress hcalled hfresh hkept howns
  cases hprogress with
  | callInit =>
    have hinits (session : Session) (connection : Option Connection) :
        inits (given ++ [.callInit session connection]) = inits given + 1 := by
      simp [inits, Input.isInit]
    constructor
    · rw [hinits]
      exact Nat.le_add_left _ _
    · rw [hinits]
      intro _ hle
      exact hfresh rfl (Nat.le_of_add_le_add_right hle)
  | arm other | armed other =>
    exact hkept (Input.isInit_of_not_fromLoop other) rfl
  | _ => exact hkept rfl rfl

theorem unstarted_turn {n : Nat} {c : MountCall} {input : Input} {given : List Input}
    {o o' : Outline} (turn : MountTurn setup n c input o o') (h : Unstarted given o c) :
    ∃ c', o'.mounts n = some c' ∧ Unstarted (given ++ [input]) o' c' := by
  have hkept {c' : MountCall} {o' : Outline} (hinput : input.isInit = false)
      (hstarts : c.phase.starts = false) (hstarts' : c'.phase.starts = false)
      (hfresh : inits given = 0 → c'.phase.owns → o'.record.state = .mounting) :
      Unstarted (given ++ [input]) o' c' := by
    rw [Unstarted.iff_of_inits (inits_concat hinput given)]
    constructor
    · rw [hstarts']
      exact Nat.zero_le _
    · rw [hstarts']
      intro howns hle
      exact hfresh (Nat.le_zero.mp hle) howns
  have hmounting (howns : c.phase.owns) (hzero : inits given = 0) :
      o.record.state = .mounting := h.fresh howns (by rw [hzero]; exact Nat.zero_le _)
  cases turn with
  | progress hprogress =>
    exact ⟨_, Outline.setMount_self .., unstarted_progress hprogress (Outline.setMount_record ..) h⟩
  | start hphase hnext =>
    -- The native side has called for the start.
    refine ⟨_, Outline.setMount_self .., ?_, ?_⟩
    · rcases hnext with rfl | rfl <;> exact Nat.zero_le _
    · intro _ hle
      have hcalled := h.called
      rw [hphase] at hcalled
      have hzero : inits given ≤ 0 := by
        rcases hnext with rfl | rfl <;>
          rwa [inits_concat rfl] at hle
      exact absurd (Nat.le_trans hcalled hzero) (Nat.not_succ_le_zero 0)
  | claim hphase idle =>
    exact ⟨_, Outline.setMount_self .., hkept rfl (by rw [hphase]; rfl) rfl fun _ _ => rfl⟩
  | refuse hphase busy | reset hphase =>
    exact ⟨_, Outline.setMount_self .., hkept rfl (by rw [hphase]; rfl) rfl fun _ => nofun⟩
  | close hphase mounted =>
    refine ⟨_, Outline.setMount_self .., hkept rfl (by rw [hphase]; rfl) rfl fun hzero _ => ?_⟩
    exact absurd (mounted.symm.trans (hmounting (by rw [hphase]; rfl) hzero)) (by simp)
  | _ hphase =>
    exact ⟨_, Outline.setMount_self .., hkept rfl (by rw [hphase]; rfl) rfl
      fun hzero _ => hmounting (by rw [hphase]; rfl) hzero⟩

theorem unstarted_move {n : Nat} {label : Label} {given : List Input} {o o' : Outline}
    (ho : Owned o) (hmove : Move setup label o o')
    (h : ∀ c, o.mounts n = some c → Unstarted given o c) :
    ∀ c, o'.mounts n = some c → Unstarted (given ++ inputs (.mount n) [label]) o' c := by
  intro c hc
  cases hbefore : o.mounts n with
  | none =>
    obtain ⟨_, _, -, rfl⟩ := hmove.new_call hbefore hc
    exact ⟨Nat.zero_le _, nofun⟩
  | some d =>
    obtain ⟨hcalled, hfresh⟩ := h d hbefore
    -- A turn of the call itself, by `unstarted_turn`.
    have hown {input : Input} (turn : MountTurn setup n d input o o') :
        Unstarted (given ++ inputs (.mount n) [.act (.mount n) input]) o' c := by
      obtain ⟨c', hc', hunstarted⟩ := unstarted_turn turn ⟨hcalled, hfresh⟩
      cases hc.symm.trans hc'
      rwa [inputs_act_self]
    by_cases howns : d.phase.owns
    · rcases hmove.owner_cases ho hbefore howns with
        ⟨hsame, hloop, -, hrecord⟩ | ⟨input, rfl, -, turn⟩
      · cases hsame.symm.trans hc
        rw [Unstarted.iff_of_inits (inits_inputs (fun input heq => (hloop input heq).1) given)]
        refine ⟨hcalled, fun _ hle => ?_⟩
        -- Another thread moves. The record said `mounting`, which no other thread changes.
        have hmounting := hfresh howns hle
        rcases hrecord with hrecord | ⟨hstate, -⟩ | ⟨hstate, -⟩
        · rw [hrecord]
          exact hmounting
        · exact absurd (hmounting.symm.trans hstate) (by simp)
        · exact absurd (hmounting.symm.trans hstate) (by simp)
      · exact hown turn
    · rcases hmove.call_cases hbefore with ⟨hsame, hloop⟩ | ⟨input, rfl, -, turn⟩
      · cases hsame.symm.trans hc
        rw [Unstarted.iff_of_inits (inits_inputs (fun input heq => (hloop input heq).1) given)]
        exact ⟨hcalled, fun howned => absurd howned howns⟩
      · exact hown turn

theorem unstarted_run {p : Process} {labels : List Label} {w : World} {events : List Event}
    (h : run setup labels ⟨p, {}⟩ = some (w, events)) (n : Nat) :
    ∀ c, w.outline.mounts n = some c → Unstarted (inputs (.mount n) labels) w.outline c := by
  refine outline_induction (P := fun labels o => ∀ c, o.mounts n = some c →
    Unstarted (inputs (.mount n) labels) o c) (fun _ hc => by cases hc) ?_ h
  intro labels v early label w late hrun ih hstep hmove
  rw [inputs_append]
  exact unstarted_move (owned_run hrun) hmove ih

/-! ## One success for each start -/

/-- An owner goes on as one or returns, and comes to start its filesystem only
    when the native side calls for it. -/
theorem MountTurn.owner_next {n : Nat} {c : MountCall} {input : Input} {o o' : Outline}
    (turn : MountTurn setup n c input o o') (howns : c.phase.owns)
    (hstarts : c.phase.starts = false) :
    ∃ c', o'.mounts n = some c' ∧ ((∃ error, c'.phase = .returned error) ∨
      (c'.phase.owns ∧ (c'.phase.starts = false ∨ input.isInit))) := by
  cases turn with
  | @progress _ _ phase hprogress =>
    have howns' := hprogress.owns_eq.trans howns
    refine ⟨_, Outline.setMount_self .., .inr ⟨howns', ?_⟩⟩
    generalize c.phase = old at hprogress hstarts
    cases hprogress with
    | callInit => exact .inr rfl
    | lockToStart => cases hstarts
    | _ => exact .inl rfl
  | start _ hnext =>
    refine ⟨_, Outline.setMount_self .., .inr ?_⟩
    rcases hnext with rfl | rfl <;> exact ⟨rfl, .inl rfl⟩
  | refuse hphase => rw [hphase] at howns; cases howns
  | reset => exact ⟨_, Outline.setMount_self .., .inl ⟨_, rfl⟩⟩
  | _ => exact ⟨_, Outline.setMount_self .., .inr ⟨rfl, .inl rfl⟩⟩

section claims

variable {p : Process} {before after : List Label} {u v w : World} {early told late : List Event}
  {r s : Role} (hbefore : run setup before ⟨p, {}⟩ = some (u, early)) (hclaim : AboutToClaim u r)
  (hstep : step setup (.act r .go) u = some (v, told)) (hafter : run setup after v = some (w, late))
  (hsuccess : (inputs r after).head? = some (.answered true))

include hbefore hclaim hstep hafter hsuccess

/-- After an attempt that succeeds, no attempt claims a mount before a filesystem
    is started. -/
theorem started_between (hagain : AboutToClaim w s) : Started late := by
  have hv : run setup (before ++ [.act r .go]) ⟨p, {}⟩ = some (v, early ++ told) :=
    run_concat.mpr ⟨u, early, told, hbefore, hstep, rfl⟩
  have turn := (step_move (numbered_run hbefore) hstep).turn hclaim.1
  have hquiet := quiet_of_claim hclaim turn (guarded_run hv) hsuccess
  by_contra hno
  exact (quiet_run hv hquiet hafter hno).notMounted hagain.2

/-- What holds after an attempt that succeeds while the native side calls for the
    start of the filesystem once: the call to mount has returned, or its host
    stays unmounted. -/
theorem unmounted_after_success {n : Nat} {c : MountCall} (hc : u.outline.mounts n = some c)
    (howns : c.phase.owns)
    (honce : inits (inputs (.mount n) (before ++ .act r .go :: after)) ≤ 1) :
    ∃ d, w.outline.mounts n = some d ∧ ((∃ error, d.phase = .returned error) ∨
      (d.phase.owns ∧ w.outline.record.state ≠ .mounted)) := by
  have hv : run setup (before ++ [.act r .go]) ⟨p, {}⟩ = some (v, early ++ told) :=
    run_concat.mpr ⟨u, early, told, hbefore, hstep, rfl⟩
  have turn := (step_move (numbered_run hbefore) hstep).turn hclaim.1
  have hquiet := quiet_of_claim hclaim turn (guarded_run hv) hsuccess
  have hvc : v.outline.mounts n = some c := (congrFun turn.mounts_eq n).trans hc
  have hsplit : inits (inputs (.mount n) before) +
      inits (inputs (.mount n) [.act r .go]) + inits (inputs (.mount n) after) ≤ 1 := by
    have hwhole : before ++ .act r .go :: after = before ++ [.act r .go] ++ after := by simp
    rwa [hwhole, inputs_append, inputs_append, inits_append, inits_append] at honce
  -- The host was mounted, so the native side has called for its start.
  have hunstarted := unstarted_run hbefore n c hc
  have hmore : c.phase.starts.toNat < inits (inputs (.mount n) before) := by
    by_contra hle
    exact absurd (hclaim.2.symm.trans (hunstarted.fresh howns (Nat.le_of_not_lt hle))) (by simp)
  have hstarts : c.phase.starts = false := by
    by_contra hstarting
    rw [Bool.not_eq_false] at hstarting
    rw [hstarting, Bool.toNat_true] at hmore
    omega
  have hnever : inits (inputs (.mount n) after) = 0 := by omega
  have hall := induction_from hv (P := fun done x _ => ∀ rest, after = done ++ rest →
      ∃ d, x.outline.mounts n = some d ∧ ((∃ error, d.phase = .returned error) ∨
        (d.phase.owns ∧ d.phase.starts = false ∧ Quiet rest x.outline))) ?_ ?_ hafter
  · obtain ⟨d, hd, hreturned | ⟨hdowns, -, hrest⟩⟩ := hall [] (List.append_nil _).symm
    · exact ⟨d, hd, .inl hreturned⟩
    · exact ⟨d, hd, .inr ⟨hdowns, hrest.notMounted⟩⟩
  · intro rest heq
    subst heq
    exact ⟨c, hvc, .inr ⟨howns, hstarts, hquiet⟩⟩
  · intro done x mid label y more hrun ih hlabel hmove rest hrest
    have hlonger : after = done ++ label :: rest := by simpa using hrest
    obtain ⟨d, hd, ⟨error, hreturned⟩ | ⟨hdowns, hdstarts, hdquiet⟩⟩ := ih _ hlonger
    · exact ⟨d, returned_move hd hreturned hmove, .inl ⟨error, hreturned⟩⟩
    · have hnot : ¬ Starts label x.outline := by
        refine not_starts_of_owner (owned_run hrun) hd hdowns ?_
        intro session heq
        rw [heq] at hdstarts
        cases hdstarts
      have hyquiet := quiet_move hdquiet hmove hnot
      rcases hmove.call_cases hd with ⟨hsame, -⟩ | ⟨input, rfl, -, turn⟩
      · exact ⟨d, hsame, .inr ⟨hdowns, hdstarts, hyquiet⟩⟩
      · obtain ⟨d', hd', hreturned | ⟨hdowns', hnext | hinit⟩⟩ := turn.owner_next hdowns hdstarts
        · exact ⟨d', hd', .inl hreturned⟩
        · exact ⟨d', hd', .inr ⟨hdowns', hnext, hyquiet⟩⟩
        · -- The native side would have called for a start once more.
          rw [hlonger, inputs_append, inits_append, inputs_act_self] at hnever
          simp [inits, hinit] at hnever

end claims

/-! ## What attempts come to -/

/-- What holds of all attempts to unmount in a run.

    At most one of them is `calling` the native side. An attempt that is `leaving` does so with
    success exactly if it found the host mounted and the one answer of the native side was that it
    is done (`Looked`, `Settled`), and a call that is `finished` has the result that its attempt
    left with. An attempt that looks at the record (`checking true`) claims the mount if the host
    is mounted, and else leaves, and the record stays as it is. After an attempt that succeeds,
    none is `AboutToClaim` a mount before a filesystem is `Started`; for the same mount, the
    native side has then called for its start twice (`inits`). -/
theorem unmount_outcome {p : Process} {labels : List Label} {w : World} {events : List Event}
    (h : run setup labels ⟨p, {}⟩ = some (w, events)) :
    (∀ r s session session' mountpoint mountpoint',
      attempt? w.host r = some (.calling session mountpoint) →
      attempt? w.host s = some (.calling session' mountpoint') → r = s) ∧
    (∀ r result, attempt? w.host r = some (.leaving result) →
      ∃ seen since, Looked setup ⟨p, {}⟩ labels r seen since ∧ Settled seen since result) ∧
    (∀ n result, w.host.unmounts n = some (.finished result) →
      ∃ seen since, Looked setup ⟨p, {}⟩ labels (.unmount n) seen (since ++ [.go]) ∧
        Settled seen since result) ∧
    (∀ r, attempt? w.host r = some (.checking true) →
      ∃ w' told, step setup (.act r .go) w = some (w', told) ∧
        if w.host.record.state = .mounted then
          attempt? w'.host r = some (.calling w.host.record.session w.host.record.mountpoint) ∧
            w'.host.record = { w.host.record with state := .unmounting }
        else attempt? w'.host r = some (.leaving false) ∧ w'.host.record = w.host.record) ∧
    (∀ before after r s u v early told late, labels = before ++ .act r .go :: after →
      run setup before ⟨p, {}⟩ = some (u, early) → AboutToClaim u r →
      step setup (.act r .go) u = some (v, told) → run setup after v = some (w, late) →
      (inputs r after).head? = some (.answered true) → AboutToClaim w s →
      Started late ∧ ∀ n c d, u.host.mounts n = some c → c.phase.owns →
        w.host.mounts n = some d → d.phase.owns → 2 ≤ inits (inputs (.mount n) labels)) := by
  refine ⟨?_, ?_, settled_of_finished h, ?_, ?_⟩
  · intro r s session session' mountpoint mountpoint' hr hs
    exact eq_of_past_gate (guarded_run h) hr hs nofun nofun
  · intro r result hr
    exact accounted_run h r _ hr
  · intro r hr
    by_cases hstate : w.host.record.state = .mounted
    · simp only [if_pos hstate]
      exact claimed_of_mounted hr hstate
    · simp only [if_neg hstate]
      exact refused_of_not_mounted hr hstate
  · intro before after r s u v early told late heq hbefore hclaim hstep hafter hsuccess hagain
    subst heq
    refine ⟨started_between hbefore hclaim hstep hafter hsuccess hagain, ?_⟩
    intro n c d hc howns hd hdowns
    by_contra hfew
    -- With one start, the owner has returned by now or no attempt can claim its mount.
    obtain ⟨e, he, ⟨error, hreturned⟩ | ⟨-, hnot⟩⟩ :=
      unmounted_after_success hbefore hclaim hstep hafter hsuccess (outline_mounts hc)
        (by rwa [MountCall.outer_owns]) (by omega)
    · cases (outline_mounts hd).symm.trans he
      rw [← MountCall.outer_owns, hreturned] at hdowns
      cases hdowns
    · exact hnot hagain.2

/-! ## A mount that is started twice -/

/-- An attempt is about to claim a mount. -/
def untilClaim : List Label :=
  mounting 0 ++ .unmount 0 :: steps (.unmount 0) [.go, .go]

/-- It succeeds, the native side starts the filesystem once more, and another
    attempt is about to claim the mount. -/
def untilSecondClaim : List Label :=
  steps (.unmount 0) [.answered true, .go] ++
    steps (.mount 0) [.callInit ⟨4096⟩ none, .go, .go, .left] ++
    .unmount 1 :: steps (.unmount 1) [.go, .go]

/-- Of one mount, two calls to unmount return with success. -/
theorem two_successes_of_one_mount :
    (∀ n mountpoint options,
      .mount n mountpoint options ∈ untilClaim ++ .act (.unmount 0) .go :: untilSecondClaim →
        n = 0) ∧
    ∃ w events, run plain (untilClaim ++ .act (.unmount 0) .go :: untilSecondClaim ++
        steps (.unmount 1) [.go, .answered true, .go]) ⟨{}, {}⟩ = some (w, events) ∧
      w.host.unmounts 0 = some (.finished true) ∧ w.host.unmounts 1 = some (.finished true) := by
  constructor
  · intro n mountpoint options hmem
    simp only [untilClaim, mounting, entering, steps, untilSecondClaim, List.mem_append,
      List.mem_cons, List.mem_map, Label.mount.injEq, reduceCtorEq, and_false, exists_false,
      or_false] at hmem
    exact hmem.1
  · exact exists_of_run plain _ ⟨{}, {}⟩ (fun moved =>
      moved.1.host.unmounts 0 = some (.finished true) ∧
        moved.1.host.unmounts 1 = some (.finished true)) (by decide +kernel)

theorem unmount_outcome_started_twice :
    ∃ u v w early told late, run plain untilClaim ⟨{}, {}⟩ = some (u, early) ∧
      AboutToClaim u (.unmount 0) ∧ step plain (.act (.unmount 0) .go) u = some (v, told) ∧
      run plain untilSecondClaim v = some (w, late) ∧ AboutToClaim w (.unmount 1) ∧
      Started late ∧
      2 ≤ inits (inputs (.mount 0) (untilClaim ++ .act (.unmount 0) .go :: untilSecondClaim)) := by
  obtain ⟨w, events, hrun, hagain, hw⟩ := exists_of_run plain
    (untilClaim ++ .act (.unmount 0) .go :: untilSecondClaim) ⟨{}, {}⟩
    (fun moved => AboutToClaim moved.1 (.unmount 1) ∧
      (moved.1.host.mounts 0).map MountCall.phase = some .running) (by decide +kernel)
  obtain ⟨u, early, hu, hclaim, hrunning⟩ := exists_of_run plain untilClaim ⟨{}, {}⟩
    (fun moved => AboutToClaim moved.1 (.unmount 0) ∧
      (moved.1.host.mounts 0).map MountCall.phase = some .running) (by decide +kernel)
  obtain ⟨_, v, _, told, late, hbefore, hstep, hafter, -⟩ := run_around.mp hrun
  cases hu.symm.trans hbefore
  obtain ⟨c, hc, hcphase⟩ := Option.map_eq_some_iff.mp hrunning
  obtain ⟨d, hd, hdphase⟩ := Option.map_eq_some_iff.mp hw
  obtain ⟨hstarted, htwice⟩ := (unmount_outcome hrun).2.2.2.2 untilClaim untilSecondClaim _ _ u v
    _ _ _ rfl hbefore hclaim hstep hafter rfl hagain
  exact ⟨u, v, w, _, told, late, hbefore, hclaim, hstep, hafter, hagain, hstarted,
    htwice 0 c d hc (by rw [hcphase]; rfl) hd (by rw [hdphase]; rfl)⟩

end HostedFs.Host
