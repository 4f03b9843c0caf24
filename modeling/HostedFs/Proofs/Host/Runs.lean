import HostedFs.Host.Schedule
import Mathlib.Data.List.Induction

/-! # Runs of a host

    A run is a list of labels, each of whose steps is possible in its turn.

    * `run_append`: a run of one list after another is two runs in a row.
    * `run_induction`: what holds at the start and is kept by one more step
      holds after every run.
    * `inputs`: what one thread was given in the course of a run.
-/

namespace HostedFs.Host

variable {setup : Setup}

/-! ## Composition -/

@[simp] theorem run_nil (w : World) : run setup [] w = some (w, []) :=
  rfl

/-- A run of one list of labels after another passes through a world between
    the two. -/
theorem run_append {before after : List Label} {w w' : World} {events : List Event} :
    run setup (before ++ after) w = some (w', events) ↔
      ∃ v early late, run setup before w = some (v, early) ∧
        run setup after v = some (w', late) ∧ events = early ++ late := by
  induction before generalizing w events with
  -- Induction on the first list, along `run`; the events of the first step stay in front.
  | nil => simp
  | cons label before ih =>
    cases hstep : step setup label w with
    | none => simp [run, hstep]
    | some moved =>
      obtain ⟨v, told⟩ := moved
      constructor
      · intro h
        simp only [List.cons_append, run, hstep, Option.bind_eq_bind, Option.bind_some,
          Option.pure_def, Option.bind_eq_some_iff, Option.some.injEq, Prod.exists,
          Prod.mk.injEq] at h
        obtain ⟨_, more, hrun, rfl, rfl⟩ := h
        obtain ⟨u, early, late, hearly, hlate, rfl⟩ := ih.mp hrun
        refine ⟨u, told ++ early, late, ?_, hlate, by simp⟩
        simp [run, hstep, hearly]
      · intro h
        obtain ⟨u, early, late, hearly, hlate, rfl⟩ := h
        simp only [run, hstep, Option.bind_eq_bind, Option.bind_some, Option.pure_def,
          Option.bind_eq_some_iff, Option.some.injEq, Prod.exists, Prod.mk.injEq] at hearly
        obtain ⟨_, more, hrun, rfl, rfl⟩ := hearly
        have h := ih.mpr ⟨_, more, late, hrun, hlate, rfl⟩
        simp [run, hstep, h]

theorem run_singleton {label : Label} {w w' : World} {events : List Event} :
    run setup [label] w = some (w', events) ↔ step setup label w = some (w', events) := by
  cases h : step setup label w with
  | none => simp [run, h]
  | some moved => simp [run, h, Prod.ext_iff]

/-- One more step at the end of a run. -/
theorem run_concat {labels : List Label} {label : Label} {w w' : World} {events : List Event} :
    run setup (labels ++ [label]) w = some (w', events) ↔
      ∃ v early late, run setup labels w = some (v, early) ∧
        step setup label v = some (w', late) ∧ events = early ++ late := by
  simp only [run_append, run_singleton]

/-- A step in the middle of a run. -/
theorem run_around {before after : List Label} {label : Label} {w w' : World}
    {events : List Event} :
    run setup (before ++ label :: after) w = some (w', events) ↔
      ∃ u v early told late, run setup before w = some (u, early) ∧
        step setup label u = some (v, told) ∧ run setup after v = some (w', late) ∧
        events = early ++ (told ++ late) := by
  rw [← List.singleton_append, run_append]
  simp only [run_append, run_singleton]
  constructor
  · intro h
    obtain ⟨u, early, _, hbefore, ⟨v, told, late, hstep, hafter, rfl⟩, rfl⟩ := h
    exact ⟨u, v, early, told, late, hbefore, hstep, hafter, rfl⟩
  · intro h
    obtain ⟨u, v, early, told, late, hbefore, hstep, hafter, rfl⟩ := h
    exact ⟨u, early, _, hbefore, ⟨v, told, late, hstep, hafter, rfl⟩, rfl⟩

/-- What holds at the start of a run, and is kept by one more step, holds at its
    end. -/
theorem run_induction {w₀ : World} {P : List Label → World → List Event → Prop}
    (start : P [] w₀ [])
    (next : ∀ labels v early label w late, run setup labels w₀ = some (v, early) →
      P labels v early → step setup label v = some (w, late) →
      P (labels ++ [label]) w (early ++ late))
    {labels : List Label} {w : World} {events : List Event}
    (h : run setup labels w₀ = some (w, events)) : P labels w events := by
  induction labels using List.reverseRecOn generalizing w events with
  | nil =>
    simp only [run_nil, Option.some.injEq, Prod.mk.injEq] at h
    obtain ⟨rfl, rfl⟩ := h
    exact start
  | append_singleton labels label ih =>
    obtain ⟨v, early, late, hrun, hstep, rfl⟩ := run_concat.mp h
    exact next labels v early label w late hrun (ih hrun) hstep

/-! ## What a thread is given -/

/-- What a thread was given in the course of a run, in order. -/
def inputs (r : Role) (labels : List Label) : List Input :=
  labels.filterMap fun
    | .act s input => if s = r then some input else none
    | _ => none

@[simp] theorem inputs_nil (r : Role) : inputs r [] = [] :=
  rfl

@[simp] theorem inputs_append (r : Role) (before after : List Label) :
    inputs r (before ++ after) = inputs r before ++ inputs r after :=
  List.filterMap_append

@[simp] theorem inputs_act_self (r : Role) (input : Input) (labels : List Label) :
    inputs r (.act r input :: labels) = input :: inputs r labels := by
  simp [inputs]

/-- A step of another thread gives nothing. -/
theorem inputs_cons_of_ne {r : Role} {label : Label} (h : ∀ input, label ≠ .act r input)
    (labels : List Label) : inputs r (label :: labels) = inputs r labels := by
  cases label with
  | act s input =>
    have hne : s ≠ r := by
      intro heq
      subst heq
      exact h input rfl
    simp [inputs, hne]
  | _ => rfl

/-- A step gives a thread one thing or nothing. -/
theorem inputs_cases (r : Role) (label : Label) :
    (∃ input, label = .act r input ∧ inputs r [label] = [input]) ∨ inputs r [label] = [] := by
  by_cases hown : ∃ input, label = .act r input
  · obtain ⟨input, rfl⟩ := hown
    exact .inl ⟨input, rfl, inputs_act_self ..⟩
  · exact .inr (inputs_cons_of_ne (fun input heq => hown ⟨input, heq⟩) [])

/-! ## Plain runs -/

/-- A host that leaves signals to the native side. -/
def plain : Setup :=
  ⟨0, { programName := "prog" }, false, fun _ => none⟩

/-- What can be checked of the end of a run holds of a world that it leads to. -/
theorem exists_of_run (setup : Setup) (labels : List Label) (w : World) (P : Moved → Prop)
    [DecidablePred P] (h : (run setup labels w).any fun moved => P moved) :
    ∃ v events, run setup labels w = some (v, events) ∧ P (v, events) := by
  cases hrun : run setup labels w with
  | none => simp [hrun] at h
  | some moved =>
    rw [hrun, Option.any_some, decide_eq_true_eq] at h
    exact ⟨moved.1, moved.2, rfl, h⟩

/-- The steps of a thread that is given the inputs in turn. -/
def steps (r : Role) (given : List Input) : List Label :=
  given.map (.act r)

/-- The steps of a call to mount on `/m` until its native event loop runs. -/
def entering (n : Nat) : List Label :=
  .mount n "/m" [] ::
    steps (.mount n) [.go, .go, .prepared none, .go, .go, .allocated (.nth n)]

/-- The steps of a call to mount until its filesystem is started. -/
def mounting (n : Nat) : List Label :=
  entering n ++ steps (.mount n) [.callInit ⟨4096⟩ none, .go, .go, .left]

/-- The steps of a call to mount while its filesystem is ended. -/
def ending (n : Nat) : List Label :=
  steps (.mount n) [.callDestroy, .left, .go, .go, .go, .go]

end HostedFs.Host
