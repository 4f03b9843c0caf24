import HostedFs.Proofs.Host.Ownership

/-! # The course of a call to mount

    What a call to mount was given says how far it has come. This module follows
    a call from phase to phase, with the token under which its host is
    registered, and shows that no other thread interferes with it.

    * `Course`, `course_run`: what a call was given, and what of its mount is
      registered, phase by phase.
    * `Ended`: what a call was given explains the error that it returns.
-/

namespace HostedFs.Host

variable {setup : Setup}

/-! ## The course of a call -/

/-- The command line that a call has for the native library. -/
def MountCall.arguments (setup : Setup) (c : MountCall) : List String :=
  setup.settings.arguments c.mountpoint c.options

/-- No argument contains a NUL. -/
def Clean (args : List String) : Prop :=
  ∀ arg ∈ args, '\x00' ∉ arg.toList

theorem firstWithNul?_eq_none {args : List String} :
    firstWithNul? args = none ↔ Clean args := by
  simp [firstWithNul?, Clean]

/-- What a call that passes every check is given before its event loop runs. -/
def checked : List Input :=
  [.go, .go, .prepared none, .go, .go]

/-- Why a call that has claimed the host returns what it returns. -/
inductive Ended (args : List String) (given : List Input) : Option HostError → Prop
  | unprepared {error : HostError} (h : [.go, .go, .prepared (some error)] <+: given) :
    Ended args given (some error)
  | spoiled {arg : String} (h : [.go, .go, .prepared none] <+: given)
    (nul : firstWithNul? args = some arg) : Ended args given (some (.nulInArgument arg))
  | failed {status : Int32} (entered : checked <+: given) (h : .loopReturned status ∈ given)
    (bad : status ≠ 0) : Ended args given (some (.nativeFailure status))
  | exited (entered : checked <+: given) (h : .loopReturned 0 ∈ given) : Ended args given none

theorem Ended.concat {args : List String} {given : List Input} {error : Option HostError}
    (h : Ended args given error) (input : Input) : Ended args (given ++ [input]) error := by
  have hextends {before : List Input} (hbefore : before <+: given) : before <+: given ++ [input] :=
    hbefore.trans (List.prefix_append ..)
  cases h with
  | unprepared h => exact .unprepared (hextends h)
  | spoiled h nul => exact .spoiled (hextends h) nul
  | failed entered h bad => exact .failed (hextends entered) (List.mem_append_left _ h) bad
  | exited entered h => exact .exited (hextends entered) (List.mem_append_left _ h)

/-- The event loop of a call was entered, and its token is registered since. -/
structure Entered (setup : Setup) (registry : Registry Nat) (given : List Input) (c : MountCall) :
    Prop where
  given : checked <+: given
  clean : Clean (c.arguments setup)
  registered : ∃ token, c.token = some token ∧ registry.lookup token = some setup.number

/-- What is known of a call to mount in each of its phases. -/
def Course (setup : Setup) (registry : Registry Nat) (given : List Input) (c : MountCall) : Prop :=
  match c.phase with
  | .claiming held => given = (if held then [.go] else []) ∧ c.token = none
  | .preparing => given = [.go, .go] ∧ c.token = none
  | .naming _ held => given = [.go, .go, .prepared none] ++ (if held then [.go] else []) ∧
      Clean (c.arguments setup) ∧ c.token = none
  | .registering => given = checked ∧ Clean (c.arguments setup) ∧ c.token = none
  | .taking status _ | .joining status _ | .gating status _ | .releasing status =>
      .loopReturned status ∈ given ∧ Entered setup registry given c
  | .resetting error _ => Ended (c.arguments setup) given error ∧
      ∀ token, c.token = some token → registry.lookup token = none
  | .returned error => error = some .alreadyMounted ∨ Ended (c.arguments setup) given error
  | _ => Entered setup registry given c

theorem Entered.concat {registry : Registry Nat} {given : List Input} {c : MountCall}
    (h : Entered setup registry given c) (input : Input) (phase : MountPhase) :
    Entered setup registry (given ++ [input]) { c with phase } :=
  ⟨h.given.trans (List.prefix_append ..), h.clean, h.registered⟩

/-- A step that leaves a call where it is leaves its course. -/
theorem course_of_other {registry registry' : Registry Nat} {given more : List Input}
    {c : MountCall} (hregistry : c.phase.owns → registry' = registry)
    (hgiven : more = given ∨ (c.phase.called ∧ given <+: more))
    (h : Course setup registry given c) : Course setup registry' more c := by
  obtain ⟨mountpoint, options, phase, token⟩ := c
  -- Only a call whose implementation runs is given more while it stays.
  rcases hgiven with rfl | ⟨hcalled, hmore⟩
  · cases phase with
    | claiming | returned => exact h
    | _ =>
      rw [hregistry rfl]
      exact h
  · cases phase with
    | initializing | destroying =>
      obtain ⟨hchecked, hclean, hregistered⟩ := h
      rw [hregistry rfl]
      exact ⟨hchecked.trans hmore, hclean, hregistered⟩
    | _ => cases hcalled

/-! ## Turns of a call -/

theorem course_progress {registry : Registry Nat} {given : List Input} {c : MountCall}
    {phase : MountPhase} {input : Input} (hprogress : Progress setup c c.phase input phase)
    (h : Course setup registry given c) :
    Course setup registry (given ++ [input]) { c with phase } := by
  obtain ⟨mountpoint, options, old, token⟩ := c
  -- `Course` says what the call was given for its phase: until it is prepared the inputs
  -- themselves, and afterwards that some of them prepared and, at its end, returned.
  cases hprogress with
  | lockToClaim =>
    obtain ⟨rfl, htoken⟩ := h
    exact ⟨rfl, htoken⟩
  | unprepared =>
    obtain ⟨rfl, rfl⟩ := h
    exact ⟨.unprepared (List.prefix_refl _), nofun⟩
  | spoiled nul =>
    obtain ⟨rfl, rfl⟩ := h
    exact ⟨.spoiled (List.prefix_refl _) nul, nofun⟩
  | prepared clean =>
    obtain ⟨rfl, htoken⟩ := h
    exact ⟨rfl, firstWithNul?_eq_none.mp clean, htoken⟩
  | lockToName =>
    obtain ⟨rfl, hclean, htoken⟩ := h
    exact ⟨rfl, hclean, htoken⟩
  -- The status that the loop returns is the input of this very step.
  | loopReturned => exact ⟨List.mem_append_right _ (List.mem_singleton_self _), h.concat _ _⟩
  | lockToTake | took | tookNone | joined =>
    exact ⟨List.mem_append_left _ h.1, h.2.concat _ _⟩
  | lockToReset => exact ⟨h.1.concat _, h.2⟩
  | _ => exact h.concat _ _

theorem course_turn {n : Nat} {c : MountCall} {input : Input} {given : List Input}
    {o o' : Outline} (turn : MountTurn setup n c input o o')
    (h : Course setup o.registry given c) :
    ∃ c', o'.mounts n = some c' ∧ Course setup o'.registry (given ++ [input]) c' := by
  cases turn with
  | progress hprogress => exact ⟨_, Outline.setMount_self .., course_progress hprogress h⟩
  | claim hphase idle =>
    rw [Course, hphase] at h
    obtain ⟨rfl, htoken⟩ := h
    exact ⟨_, Outline.setMount_self .., rfl, htoken⟩
  | refuse hphase busy => exact ⟨_, Outline.setMount_self .., .inl rfl⟩
  | name hphase =>
    rw [Course, hphase] at h
    obtain ⟨rfl, hclean, htoken⟩ := h
    exact ⟨_, Outline.setMount_self .., rfl, hclean, htoken⟩
  | @enter _ token hphase fresh =>
    rw [Course, hphase] at h
    obtain ⟨rfl, hclean, -⟩ := h
    -- The token is fresh, and the call is the only one to take it back.
    exact ⟨_, Outline.setMount_self .., List.prefix_append .., hclean, token, rfl,
      Registry.lookup_insert_self ..⟩
  | start hphase hnext =>
    rw [Course, hphase] at h
    rcases hnext with rfl | rfl <;> exact ⟨_, Outline.setMount_self .., h.concat _ _⟩
  | close hphase mounted =>
    rw [Course, hphase] at h
    exact ⟨_, Outline.setMount_self .., h.concat _ _⟩
  | closed hphase other =>
    rw [Course, hphase] at h
    exact ⟨_, Outline.setMount_self .., h.concat _ _⟩
  | shut hphase free =>
    rw [Course, hphase] at h
    exact ⟨_, Outline.setMount_self .., List.mem_append_left _ h.1, h.2.concat _ _⟩
  | reopen hphase =>
    rw [Course, hphase] at h
    exact ⟨_, Outline.setMount_self .., List.mem_append_left _ h.1, h.2.concat _ _⟩
  | @release _ status token error hphase htoken herror =>
    rw [Course, hphase] at h
    refine ⟨_, Outline.setMount_self .., ?_, ?_⟩
    · have hreturned : .loopReturned status ∈ given ++ [.go] := List.mem_append_left _ h.1
      have hentered : checked <+: given ++ [.go] := h.2.given.trans (List.prefix_append ..)
      by_cases hstatus : status = 0
      · rw [herror, if_pos hstatus]
        exact .exited hentered (hstatus ▸ hreturned)
      · rw [herror, if_neg hstatus]
        exact .failed hentered hreturned hstatus
    · intro u hu
      obtain rfl : token = u := Option.some.inj (htoken.symm.trans hu)
      exact Registry.lookup_erase_self ..
  | reset hphase =>
    rw [Course, hphase] at h
    exact ⟨_, Outline.setMount_self .., .inr (h.1.concat _)⟩

/-! ## Runs -/

theorem called_of_attempt {w : World} {n : Nat} {c : MountCall}
    (hc : w.outline.mounts n = some c) (h : (w.outline.attempt (.mount n)).isSome) :
    c.phase.called := by
  obtain ⟨phase, hphase⟩ := Option.isSome_iff_exists.mp h
  obtain ⟨d, hd, hcalled⟩ := outline_within w n phase hphase
  cases hc.symm.trans hd
  rcases hcalled with hcalled | hcalled <;> rw [hcalled] <;> rfl

/-- While a call stays where it is, it is given nothing but for an attempt to
    unmount that is made within it. -/
theorem given_of_other {label : Label} {v w : World} {n : Nat} {c : MountCall}
    (hv : v.outline.mounts n = some c) (hw : w.outline.mounts n = some c)
    (hlabel : AttemptOf n label v.outline w.outline) (given : List Input) :
    given ++ inputs (.mount n) [label] = given ∨
      (c.phase.called ∧ given <+: given ++ inputs (.mount n) [label]) := by
  rcases inputs_cases (.mount n) label with ⟨input, rfl, -⟩ | hnothing
  · refine .inr ⟨?_, List.prefix_append ..⟩
    rcases (hlabel input rfl).2 with hattempt | hattempt
    · exact called_of_attempt hv hattempt
    · exact called_of_attempt hw hattempt
  · exact .inl (by rw [hnothing, List.append_nil])

theorem course_run {p : Process} {labels : List Label} {w : World} {events : List Event}
    (h : run setup labels ⟨p, {}⟩ = some (w, events)) (n : Nat) :
    (w.outline.mounts n = none → inputs (.mount n) labels = []) ∧
      ∀ c, w.outline.mounts n = some c →
        Course setup w.outline.registry (inputs (.mount n) labels) c := by
  refine outline_induction (P := fun labels o =>
    (o.mounts n = none → inputs (.mount n) labels = []) ∧
      ∀ c, o.mounts n = some c → Course setup o.registry (inputs (.mount n) labels) c) ?_ ?_ h
  · exact ⟨fun _ => rfl, fun _ hc => by cases hc⟩
  · intro labels v early label w late hrun ih hstep hmove
    obtain ⟨hnone, hcourse⟩ := ih
    rw [inputs_append]
    cases hv : v.outline.mounts n with
    | none =>
      -- Only a call that has begun takes steps.
      have hnothing : inputs (.mount n) [label] = [] := by
        refine inputs_cons_of_ne ?_ []
        intro input heq
        subst heq
        have habsent : v.host.mounts n = none := Option.map_eq_none_iff.mp hv
        simp [step, habsent] at hstep
      rw [hnone hv, hnothing]
      refine ⟨fun _ => rfl, fun c hc => ?_⟩
      obtain ⟨_, _, -, rfl⟩ := hmove.new_call hv hc
      exact ⟨rfl, rfl⟩
    | some d =>
      have hbefore := hcourse d hv
      constructor
      · intro hw
        rcases hmove.call_cases hv with ⟨hsame, -⟩ | ⟨input, -, -, turn⟩
        · exact absurd (hsame.symm.trans hw) (by simp)
        · obtain ⟨c', hc', -⟩ := course_turn turn hbefore
          exact absurd (hc'.symm.trans hw) (by simp)
      · intro c hc
        have hturn {input : Input} (turn : MountTurn setup n d input v.outline w.outline) :
            Course setup w.outline.registry
              (inputs (.mount n) labels ++ inputs (.mount n) [.act (.mount n) input]) c := by
          obtain ⟨c', hc', hafter⟩ := course_turn turn hbefore
          cases hc.symm.trans hc'
          rwa [inputs_act_self]
        -- While a call owns the host, nobody else changes the registry.
        by_cases howns : d.phase.owns
        · rcases hmove.owner_cases (owned_run hrun) hv howns with
            ⟨hsame, hlabel, hregistry, -⟩ | ⟨input, rfl, -, turn⟩
          · cases hsame.symm.trans hc
            exact course_of_other (fun _ => hregistry) (given_of_other hv hc hlabel _) hbefore
          · exact hturn turn
        · rcases hmove.call_cases hv with ⟨hsame, hlabel⟩ | ⟨input, rfl, -, turn⟩
          · cases hsame.symm.trans hc
            exact course_of_other (fun howned => absurd howned howns)
              (given_of_other hv hc hlabel _) hbefore
          · exact hturn turn

end HostedFs.Host
