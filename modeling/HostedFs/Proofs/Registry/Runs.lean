import HostedFs.Registry.Steps
import Mathlib.Data.List.Induction

/-! # Runs of the registry

    A run is a list of steps of any number of calls, each possible in its turn,
    from an empty table and no blocks.

    * `Move`: what one step does, a rule for each way that it can go.
    * `run_induction`: what holds at the start and is kept by one more step
      holds after every run.
    * `Traced`: what the steps tell of the calls.
    * `calls_run`: the result of a call that is over stays what it is.
-/

namespace HostedFs.Registry

variable {α : Type}

namespace Shared

@[simp] theorem put_table (s : Shared α) (call : Nat) (p : Progress α) :
    (s.put call p).table = s.table :=
  rfl

@[simp] theorem put_blocks (s : Shared α) (call : Nat) (p : Progress α) :
    (s.put call p).blocks = s.blocks :=
  rfl

@[simp] theorem put_entered (s : Shared α) (call : Nat) (p : Progress α) :
    (s.put call p).entered = s.entered :=
  rfl

@[simp] theorem put_removals (s : Shared α) (call : Nat) (p : Progress α) :
    (s.put call p).removals = s.removals :=
  rfl

@[simp] theorem put_calls_self (s : Shared α) (call : Nat) (p : Progress α) :
    (s.put call p).calls call = some p :=
  if_pos rfl

theorem put_calls_ne (s : Shared α) {call other : Nat} (p : Progress α) (h : other ≠ call) :
    (s.put call p).calls other = s.calls other :=
  if_neg h

end Shared

/-! ## Moves -/

/-- A step and what it does, in each of the ways that it can go. -/
inductive Move : Shared α → Step α → Shared α → Prop
  | allocate {s : Shared α} {call : Nat} {object : α} {token : Token}
      (new : s.calls call = none) (unused : token ∉ s.blocks) :
      Move s (.allocate call object token)
        ({ s with blocks := token :: s.blocks }.put call (.allocated token object))
  | enter {s : Shared α} {call : Nat} {object : α} {token : Token}
      (ready : s.calls call = some (.allocated token object)) :
      Move s (.enter call)
        ({ s with table := s.table.insert token object, entered := s.entered + 1 }.put call
          (.registered token))
  | look {s : Shared α} {call : Nat} {token : Token} (new : s.calls call = none) :
      Move s (.look call token) (s.put call (.found (s.table.lookup token)))
  | take {s : Shared α} {call : Nat} {object : α} {token : Token}
      (new : s.calls call = none) (mapped : s.table.lookup token = some object) :
      Move s (.remove call token)
        ({ s with table := s.table.erase token, removals := s.removals + 1 }.put call
          (.removed token object))
  | miss {s : Shared α} {call : Nat} {token : Token}
      (new : s.calls call = none) (unmapped : s.table.lookup token = none) :
      Move s (.remove call token) (s.put call (.released none))
  | free {s : Shared α} {call : Nat} {object : α} {token : Token}
      (ready : s.calls call = some (.removed token object)) :
      Move s (.free call)
        ({ s with blocks := s.blocks.erase token }.put call (.released (some object)))

/-- The steps that are possible, with what they do, are the moves. -/
theorem step_eq_some_iff {s s' : Shared α} {a : Step α} : s.step a = some s' ↔ Move s a s' := by
  constructor
  · intro h
    cases a with
    | allocate call object token =>
      simp only [Shared.step] at h
      -- Each guard of the step is a premise of the move.
      split at h
      next new =>
        split at h
        · cases h
        next unused =>
          cases h
          exact .allocate new unused
      · cases h
    | enter call =>
      simp only [Shared.step] at h
      split at h
      next ready =>
        cases h
        exact .enter ready
      · cases h
    | look call token =>
      simp only [Shared.step] at h
      split at h
      next new =>
        cases h
        exact .look new
      · cases h
    | remove call token =>
      simp only [Shared.step] at h
      split at h
      next new =>
        split at h
        next mapped =>
          cases h
          exact .take new mapped
        next unmapped =>
          cases h
          exact .miss new unmapped
      · cases h
    | free call =>
      simp only [Shared.step] at h
      split at h
      next ready =>
        cases h
        exact .free ready
      · cases h
  · intro h
    cases h with
    | allocate new unused => simp [Shared.step, new, unused]
    | enter ready => simp [Shared.step, ready]
    | look new => simp [Shared.step, new]
    | take new mapped => simp [Shared.step, new, mapped]
    | miss new unmapped => simp [Shared.step, new, unmapped]
    | free ready => simp [Shared.step, ready]

/-! ## Composition -/

@[simp] theorem run_nil (s : Shared α) : s.run [] = some s :=
  rfl

theorem run_append {s s' : Shared α} {before after : List (Step α)} :
    s.run (before ++ after) = some s' ↔ ∃ v, s.run before = some v ∧ v.run after = some s' := by
  simp only [Shared.run, List.foldlM_append, Option.bind_eq_bind, Option.bind_eq_some_iff]

theorem run_cons {s s' : Shared α} {a : Step α} {after : List (Step α)} :
    s.run (a :: after) = some s' ↔ ∃ v, Move s a v ∧ v.run after = some s' := by
  simp only [Shared.run, List.foldlM_cons, Option.bind_eq_bind, Option.bind_eq_some_iff,
    step_eq_some_iff]

/-- One more step at the end of a run. -/
theorem run_concat {s s' : Shared α} {steps : List (Step α)} {a : Step α} :
    s.run (steps ++ [a]) = some s' ↔ ∃ v, s.run steps = some v ∧ Move v a s' := by
  simp [run_append, run_cons]

/-- A step in the middle of a run. -/
theorem run_around {before after : List (Step α)} {a : Step α} {s₀ s : Shared α} :
    s₀.run (before ++ a :: after) = some s ↔
      ∃ u v, s₀.run before = some u ∧ Move u a v ∧ v.run after = some s := by
  rw [run_append]
  constructor
  · intro h
    obtain ⟨u, hbefore, hrest⟩ := h
    obtain ⟨v, hmove, hafter⟩ := run_cons.mp hrest
    exact ⟨u, v, hbefore, hmove, hafter⟩
  · intro h
    obtain ⟨u, v, hbefore, hmove, hafter⟩ := h
    exact ⟨u, hbefore, run_cons.mpr ⟨v, hmove, hafter⟩⟩

/-- What holds at the start of a run, and is kept by one more step, holds at its
    end. -/
theorem run_induction {s₀ : Shared α} {P : List (Step α) → Shared α → Prop} (start : P [] s₀)
    (next : ∀ steps s a s', s₀.run steps = some s → P steps s → Move s a s' → P (steps ++ [a]) s')
    {steps : List (Step α)} {s : Shared α} (h : s₀.run steps = some s) : P steps s := by
  induction steps using List.reverseRecOn generalizing s with
  | nil =>
    cases h
    exact start
  | append_singleton steps a ih =>
    obtain ⟨v, hv, hmove⟩ := run_concat.mp h
    exact next steps v a s hv (ih hv) hmove

/-! ## Calls -/

/-- The call whose step it is. -/
def Step.call : Step α → Nat
  | .allocate call _ _ | .enter call | .look call _ | .remove call _ | .free call => call

/-- A step changes nothing of the other calls. -/
theorem Move.calls_ne {s s' : Shared α} {a : Step α} (h : Move s a s') {call : Nat}
    (hne : call ≠ a.call) : s'.calls call = s.calls call := by
  cases h <;> exact Shared.put_calls_ne _ _ hne

/-- A call goes on from where it stands: what was removed is released, and what
    is over stays so. -/
inductive Progress.Onward : Progress α → Progress α → Prop
  | enter (token : Token) (object : α) : Onward (.allocated token object) (.registered token)
  | free (token : Token) (object : α) : Onward (.removed token object) (.released (some object))
  | stay (p : Progress α) : Onward p p

theorem Move.onward {s s' : Shared α} {a : Step α} (h : Move s a s') {call : Nat} {p : Progress α}
    (hp : s.calls call = some p) : ∃ q, s'.calls call = some q ∧ p.Onward q := by
  by_cases hcall : call = a.call
  · subst hcall
    cases h with
    | allocate new => exact absurd (hp.symm.trans new) (by simp)
    | look new => exact absurd (hp.symm.trans new) (by simp)
    | take new => exact absurd (hp.symm.trans new) (by simp)
    | miss new => exact absurd (hp.symm.trans new) (by simp)
    | enter ready =>
      cases hp.symm.trans ready
      exact ⟨_, Shared.put_calls_self .., .enter ..⟩
    | free ready =>
      cases hp.symm.trans ready
      exact ⟨_, Shared.put_calls_self .., .free ..⟩
  · exact ⟨p, (h.calls_ne hcall).trans hp, .stay p⟩

/-- In the course of a run a call takes one step further at most. -/
theorem calls_run {s s' : Shared α} {steps : List (Step α)} {call : Nat} {p : Progress α}
    (hp : s.calls call = some p) (h : s.run steps = some s') :
    ∃ q, s'.calls call = some q ∧ p.Onward q := by
  refine run_induction (P := fun _ s' => ∃ q, s'.calls call = some q ∧ p.Onward q)
    ⟨p, hp, .stay p⟩ ?_ h
  intro steps v a v' hv ih hmove
  obtain ⟨q, hq, hpq⟩ := ih
  obtain ⟨r, hr, hqr⟩ := hmove.onward hq
  refine ⟨r, hr, ?_⟩
  cases hpq with
  | stay => exact hqr
  | enter =>
    cases hqr
    exact .enter ..
  | free =>
    cases hqr
    exact .free ..

/-! ## Steps and calls -/

/-- What the steps of a run tell of its calls: each allocates once, and those that
    have entered their object are over. -/
structure Traced (steps : List (Step α)) (s : Shared α) : Prop where
  fresh : ∀ call, s.calls call = none → ∀ a ∈ steps, a.call ≠ call
  allocated : ∀ call token object, s.calls call = some (.allocated token object) →
    .allocate call object token ∈ steps
  once : ∀ call object token object' token', .allocate call object token ∈ steps →
    .allocate call object' token' ∈ steps → object = object' ∧ token = token'
  entered : ∀ call, .enter call ∈ steps → ∃ token, s.calls call = some (.registered token)

theorem traced_move {steps : List (Step α)} {s s' : Shared α} {a : Step α} (hs : Traced steps s)
    (h : Move s a s') : Traced (steps ++ [a]) s' := by
  constructor
  · intro call hnone b hb
    rw [List.mem_append, List.mem_singleton] at hb
    by_cases hcall : call = a.call
    · subst hcall
      cases h <;> simp [Step.call] at hnone
    · rcases hb with hb | rfl
      · exact hs.fresh call ((h.calls_ne hcall).symm.trans hnone) b hb
      · exact Ne.symm hcall
  · intro call token object hp
    rw [List.mem_append, List.mem_singleton]
    by_cases hcall : call = a.call
    · subst hcall
      cases h <;> simp [Step.call] at hp
      obtain ⟨rfl, rfl⟩ := hp
      exact .inr rfl
    · exact .inl (hs.allocated call token object ((h.calls_ne hcall).symm.trans hp))
  · intro call object token object' token' h₁ h₂
    rw [List.mem_append, List.mem_singleton] at h₁ h₂
    -- A call that allocates now has done nothing before.
    have hnew {o : α} {t : Token} (ha : Step.allocate call o t = a) {o' : α} {t' : Token}
        (hb : .allocate call o' t' ∈ steps) : False := by
      subst ha
      cases h with
      | allocate new => exact hs.fresh call new _ hb rfl
    rcases h₁ with h₁ | h₁ <;> rcases h₂ with h₂ | h₂
    · exact hs.once call object token object' token' h₁ h₂
    · exact (hnew h₂ h₁).elim
    · exact (hnew h₁ h₂).elim
    · cases h₁.trans h₂.symm
      exact ⟨rfl, rfl⟩
  · intro call hcall
    rw [List.mem_append, List.mem_singleton] at hcall
    rcases hcall with hcall | rfl
    · obtain ⟨token, htoken⟩ := hs.entered call hcall
      obtain ⟨q, hq, honward⟩ := h.onward htoken
      cases honward
      exact ⟨token, hq⟩
    · cases h with
      | enter ready => exact ⟨_, Shared.put_calls_self ..⟩

theorem traced_run {steps : List (Step α)} {s : Shared α}
    (h : Shared.run {} steps = some s) : Traced steps s := by
  refine run_induction (P := Traced) ⟨?_, ?_, ?_, ?_⟩
    (fun _ _ _ _ _ hs hmove => traced_move hs hmove) h
  · exact fun _ _ _ ha => absurd ha (List.not_mem_nil)
  · exact fun _ _ _ hp => nomatch hp
  · exact fun _ _ _ _ _ ha => absurd ha (List.not_mem_nil)
  · exact fun _ ha => absurd ha (List.not_mem_nil)

end HostedFs.Registry
