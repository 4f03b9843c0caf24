import HostedFs.Proofs.Registry.Blocks
import HostedFs.Proofs.Registry.History

/-! # The registry as its callers see it

    Every call ends with what the steps before its own tell, whatever the other
    calls do between them.

    * `looked_run`, `removed_run`, `entered_run`: what a call comes to.
    * `one_taker`: of the calls that remove one entry, one gets its object.
    * `counted_run`: the number of entries and of those taken out again.
    * `Refined`, `refined_run`: all that callers can rely on after every run.
-/

namespace HostedFs.Registry

variable {α : Type}

/-! ## Results -/

/-- A call has taken an object out, and has freed its block or is about to. -/
def Took (s : Shared α) (call : Nat) (token : Token) (object : α) : Prop :=
  s.calls call = some (.removed token object) ∨ s.calls call = some (.released (some object))

/-- A call that looks a token up finds what stood under it at the time. -/
theorem looked_run {before after : List (Step α)} {call : Nat} {token : Token} {s : Shared α}
    (h : Shared.run {} (before ++ .look call token :: after) = some s) :
    ∃ found, s.calls call = some (.found found) ∧
      ∀ object, found = some object ↔ Latest before token object := by
  obtain ⟨u, v, hbefore, hmove, hafter⟩ := run_around.mp h
  cases hmove with
  | look new =>
    obtain ⟨q, hq, honward⟩ := calls_run (Shared.put_calls_self u call _) hafter
    cases honward
    exact ⟨_, hq, fun object => lookup_run hbefore token object⟩

/-- A call that removes a token takes what stood under it at the time, or there
    was nothing. -/
theorem removed_run {before after : List (Step α)} {call : Nat} {token : Token} {s : Shared α}
    (h : Shared.run {} (before ++ .remove call token :: after) = some s) :
    (∃ object, Latest before token object ∧ Took s call token object) ∨
      ((∀ object, ¬ Latest before token object) ∧ s.calls call = some (.released none)) := by
  obtain ⟨u, v, hbefore, hmove, hafter⟩ := run_around.mp h
  cases hmove with
  | @take _ object _ new mapped =>
    obtain ⟨q, hq, honward⟩ := calls_run (Shared.put_calls_self _ call _) hafter
    refine .inl ⟨object, (lookup_run hbefore token object).mp mapped, ?_⟩
    cases honward with
    | free => exact .inr hq
    | stay => exact .inl hq
  | miss new unmapped =>
    obtain ⟨q, hq, honward⟩ := calls_run (Shared.put_calls_self _ call _) hafter
    cases honward
    refine .inr ⟨fun object hlatest => ?_, hq⟩
    exact absurd (unmapped.symm.trans ((lookup_run hbefore token object).mpr hlatest)) (by simp)

/-- A call that enters its object does so under a token that nothing stands under. -/
theorem entered_run {before after : List (Step α)} {call : Nat} {s : Shared α}
    (h : Shared.run {} (before ++ .enter call :: after) = some s) :
    ∃ token object, .allocate call object token ∈ before ∧
      s.calls call = some (.registered token) ∧ ∀ other, ¬ Latest before token other := by
  obtain ⟨u, v, hbefore, hmove, hafter⟩ := run_around.mp h
  cases hmove with
  | @enter _ object token ready =>
    obtain ⟨q, hq, honward⟩ := calls_run (Shared.put_calls_self _ call _) hafter
    cases honward
    refine ⟨token, object, (traced_run hbefore).allocated call token object ready, hq, ?_⟩
    intro other hlatest
    have hmapped := (lookup_run hbefore token other).mpr hlatest
    exact absurd (((kept_run hbefore).unmapped ready).symm.trans hmapped) (by simp)

/-! ## One taker -/

/-- Of two places in a list one comes after the other: where `a` does not occur
    after `b`, the place of `b` is after that of `a`. -/
theorem mem_of_split {β : Type} {before after x y : List β} {a b : β}
    (h : before ++ a :: after = x ++ b :: y) (hne : b ≠ a) (hnot : a ∉ y) : b ∈ after := by
  rcases List.append_eq_append_iff.mp h with ⟨mid, rfl, hmid⟩ | ⟨mid, rfl, hmid⟩
  · cases mid with
    | nil => exact absurd (List.cons.inj hmid).1.symm hne
    | cons c mid =>
      obtain ⟨-, rfl⟩ := List.cons.inj hmid
      simp
  · cases mid with
    | nil => exact absurd (List.cons.inj hmid).1 hne
    | cons c mid =>
      obtain ⟨-, rfl⟩ := List.cons.inj hmid
      exact absurd (by simp) hnot

/-- Nothing stands under a token that was removed, until something is entered
    under it again. -/
theorem not_latest_of_removed {before after : List (Step α)} {call : Nat} {token : Token}
    {object : α}
    (hnone : ∀ a ∈ after, ¬ EntersUnder (before ++ .remove call token :: after) token a) :
    ¬ Latest (before ++ .remove call token :: after) token object := by
  intro h
  obtain ⟨x, other, y, hsplit, hallocate, -, hkept⟩ := h
  have hmem : .enter other ∈ after := mem_of_split hsplit (by simp) (hkept call)
  refine hnone _ hmem ⟨other, object, rfl, ?_⟩
  rw [hsplit]
  exact List.mem_append_left _ hallocate

/-- Removing is the work of one call: of those that remove a token between one
    entry under it and the next, the first takes the object and the others get
    nothing. -/
theorem one_taker {before among after : List (Step α)} {call : Nat} {token : Token} {object : α}
    {s : Shared α} (h : Shared.run {} (before ++ .enter call :: (among ++ after)) = some s)
    (hallocate : .allocate call object token ∈ before)
    (hlast : ∀ a ∈ among, ¬ EntersUnder (before ++ .enter call :: (among ++ after)) token a)
    (hsome : ∃ other, .remove other token ∈ among) :
    ∃ taker, .remove taker token ∈ among ∧ Took s taker token object ∧
      ∀ other, .remove other token ∈ among → other ≠ taker →
        s.calls other = some (.released none) := by
  classical
  -- The first of the calls that remove the token.
  obtain ⟨first, hfirst⟩ : ∃ a, among.find? (fun a => ∃ n, a = .remove n token) = some a := by
    rw [← Option.isSome_iff_exists, List.find?_isSome]
    obtain ⟨other, hother⟩ := hsome
    exact ⟨_, hother, decide_eq_true ⟨other, rfl⟩⟩
  obtain ⟨hremove, early, late, rfl, hearly⟩ := List.find?_eq_some_iff_append.mp hfirst
  obtain ⟨taker, rfl⟩ := of_decide_eq_true hremove
  have hkept : ∀ other, .remove other token ∉ early := by
    intro other hmem
    simpa using hearly _ hmem
  have hunder : ∀ {steps : List (Step α)} {a : Step α},
      (∀ b ∈ steps,
        b ∈ before ++ .enter call :: ((early ++ .remove taker token :: late) ++ after)) →
      a ∈ early ++ .remove taker token :: late → ¬ EntersUnder steps token a := by
    intro steps a hsub ha hunder
    obtain ⟨n, o, rfl, hmem⟩ := hunder
    exact hlast _ ha ⟨n, o, rfl, hsub _ hmem⟩
  have hlatest : Latest (before ++ .enter call :: early) token object := by
    refine ⟨before, call, early, rfl, hallocate, fun a ha => ?_, hkept⟩
    apply hunder
    · intro b hb
      simp only [List.mem_append, List.mem_cons] at hb ⊢
      tauto
    · exact List.mem_append_left _ ha
  refine ⟨taker, by simp, ?_, ?_⟩
  · have h' : Shared.run {} ((before ++ .enter call :: early) ++
        .remove taker token :: (late ++ after)) = some s := by simpa using h
    rcases removed_run h' with ⟨other, hother, htook⟩ | ⟨hnone, -⟩
    · obtain ⟨u, v, hu, -, -⟩ := run_around.mp h'
      have hsame := ((lookup_run hu token object).mpr hlatest).symm.trans
        ((lookup_run hu token other).mpr hother)
      cases hsame
      exact htook
    · exact absurd hlatest (hnone object)
  · intro other hother hne
    -- Any other call comes after the taker.
    have hlate : .remove other token ∈ late := by
      rw [List.mem_append, List.mem_cons] at hother
      rcases hother with hmem | heq | hmem
      · exact absurd hmem (hkept other)
      · cases heq
        exact absurd rfl hne
      · exact hmem
    obtain ⟨mid, rest, rfl⟩ := List.mem_iff_append.mp hlate
    have h' : Shared.run {} (((before ++ .enter call :: early) ++ .remove taker token :: mid) ++
        .remove other token :: (rest ++ after)) = some s := by simpa using h
    rcases removed_run h' with ⟨found, hfound, -⟩ | ⟨-, hnothing⟩
    · refine absurd hfound (not_latest_of_removed fun a ha => ?_)
      apply hunder
      · intro b hb
        simp only [List.mem_append, List.mem_cons] at hb ⊢
        tauto
      · simp [ha]
    · exact hnothing

/-! ## Counts -/

/-- The step enters an object. -/
def Step.enters : Step α → Bool
  | .enter _ => true
  | _ => false

/-- The step removes a token, and the call took an object out. -/
def Step.takes (s : Shared α) : Step α → Bool
  | .remove call _ =>
    match s.calls call with
    | some (.removed ..) | some (.released (some _)) => true
    | _ => false
  | _ => false

/-- Whether a call took something out does not change once it has begun. -/
theorem takes_move {s s' : Shared α} {a b : Step α} (h : Move s a s')
    (hbegun : s.calls b.call ≠ none) : b.takes s' = b.takes s := by
  cases b with
  | remove call token =>
    obtain ⟨p, hp⟩ := Option.ne_none_iff_exists'.mp hbegun
    obtain ⟨q, hq, honward⟩ := h.onward hp
    have hp : s.calls call = some p := hp
    have hq : s'.calls call = some q := hq
    cases honward with
    | stay => simp only [Step.takes, hp, hq]
    | enter => simp only [Step.takes, hp, hq]
    | free => simp only [Step.takes, hp, hq]
  | _ => rfl

/-- The counters of a run say how many objects its steps entered and how many
    they took out. -/
theorem counted_run {steps : List (Step α)} {s : Shared α} (h : Shared.run {} steps = some s) :
    s.entered = steps.countP Step.enters ∧ s.removals = steps.countP (Step.takes s) := by
  refine run_induction (P := fun steps s => s.entered = steps.countP Step.enters ∧
    s.removals = steps.countP (Step.takes s)) ⟨rfl, rfl⟩ ?_ h
  intro steps s a s' hrun ih hmove
  obtain ⟨hentered, hremovals⟩ := ih
  have hsame : steps.countP (Step.takes s') = steps.countP (Step.takes s) := by
    apply List.countP_congr
    intro b hb
    rw [takes_move hmove]
    intro hnone
    exact (traced_run hrun).fresh _ hnone b hb rfl
  simp only [List.countP_append, List.countP_singleton, hsame]
  cases hmove with
  | miss new unmapped => simp [Step.enters, Step.takes, hentered, hremovals]
  | _ => simp [Step.enters, Step.takes, hentered, hremovals]

/-! ## What callers can rely on -/

/-- A registry after a run of steps, as its callers see it. -/
structure Refined (steps : List (Step α)) (s : Shared α) : Prop where
  /-- The tokens in use differ from one another. -/
  tokens_nodup : s.table.tokens.Nodup
  /-- None of them is null. -/
  tokens_ne_null : ∀ token ∈ s.table.tokens, token.toPointer ≠ 0
  /-- Under a token stands the object that was entered under it last, if the
      token was not removed since. -/
  lookup_iff : ∀ token object, s.table.lookup token = some object ↔ Latest steps token object
  /-- A call that registers gets a token that was not in use. -/
  entered : ∀ before call after, steps = before ++ .enter call :: after →
    ∃ token object, .allocate call object token ∈ before ∧
      s.calls call = some (.registered token) ∧ ∀ other, ¬ Latest before token other
  /-- A call that looks a token up finds what stands under it at the time. -/
  looked : ∀ before call token after, steps = before ++ .look call token :: after →
    ∃ found, s.calls call = some (.found found) ∧
      ∀ object, found = some object ↔ Latest before token object
  /-- A call that releases a token gets what stands under it at the time, or there
      is nothing. -/
  removed : ∀ before call token after, steps = before ++ .remove call token :: after →
    (∃ object, Latest before token object ∧ Took s call token object) ∨
      ((∀ object, ¬ Latest before token object) ∧ s.calls call = some (.released none))
  /-- Of the calls that release a token between one entry under it and the next,
      one gets the object. -/
  one_taker : ∀ before call object token among after,
    steps = before ++ .enter call :: (among ++ after) → .allocate call object token ∈ before →
    (∀ a ∈ among, ¬ EntersUnder steps token a) → (∃ other, .remove other token ∈ among) →
    ∃ taker, .remove taker token ∈ among ∧ Took s taker token object ∧
      ∀ other, .remove other token ∈ among → other ≠ taker →
        s.calls other = some (.released none)
  /-- That call can free the block, which is then still allocated, and it frees
      no other. -/
  freed : ∀ call token object, s.calls call = some (.removed token object) →
    token ∈ s.blocks ∧ ∃ s', s.step (.free call) = some s' ∧
      (∀ other, other ∈ s'.blocks ↔ other ≠ token ∧ other ∈ s.blocks) ∧
      s'.calls call = some (.released (some object))
  /-- No other call can free anything. -/
  free_only : ∀ call s', s.step (.free call) = some s' →
    ∃ token object, s.calls call = some (.removed token object)
  /-- No block is allocated twice. -/
  blocks_nodup : s.blocks.Nodup
  /-- The blocks are those of the tokens in use and of the calls between
      allocating and entering, or between removing and freeing. -/
  mem_blocks_iff : ∀ token, token ∈ s.blocks ↔ ∃ holder, Holds s holder token
  /-- No block is held twice. -/
  holder_unique : ∀ token holder other, Holds s holder token → Holds s other token →
    holder = other
  /-- There are as many objects as were entered, less those taken out. -/
  size : s.table.size + steps.countP (Step.takes s) = steps.countP Step.enters

/-- Every run of `Shared.step`s of any number of calls, in any order, leaves a registry on which its
    callers can rely: `Refined` says what each call got, who holds which block, and how many objects
    there are. -/
theorem refined_run {steps : List (Step α)} {s : Shared α} (h : Shared.run {} steps = some s) :
    Refined steps s where
  tokens_nodup := (kept_run h).tokens
  tokens_ne_null token _ := token.ne_null
  lookup_iff := lookup_run h
  entered before call after hsplit := entered_run (hsplit ▸ h)
  looked before call token after hsplit := looked_run (hsplit ▸ h)
  removed before call token after hsplit := removed_run (hsplit ▸ h)
  one_taker before call object token among after hsplit hallocate hlast hsome := by
    subst hsplit
    exact Registry.one_taker h hallocate hlast hsome
  freed call token object hready := by
    have hkept := kept_run h
    refine ⟨hkept.mem_blocks (.call call) ⟨object, .inr hready⟩, _,
      step_eq_some_iff.mpr (.free hready), fun other => ?_, Shared.put_calls_self ..⟩
    exact hkept.blocks.mem_erase_iff
  free_only call s' hstep := by
    cases step_eq_some_iff.mp hstep with
    | free ready => exact ⟨_, _, ready⟩
  blocks_nodup := (kept_run h).blocks
  mem_blocks_iff := (kept_run h).mem_blocks_iff
  holder_unique := (kept_run h).unique
  size := by
    obtain ⟨hentered, hremovals⟩ := counted_run h
    rw [← hentered, ← hremovals]
    exact (kept_run h).size

/-- Two calls race to release one token, and its block is handed out again. -/
def racing : List (Step Nat) :=
  [.allocate 0 7 (.nth 0), .allocate 1 8 (.nth 1), .enter 1, .enter 0, .look 2 (.nth 0),
    .remove 3 (.nth 0), .remove 4 (.nth 0), .free 3, .allocate 5 9 (.nth 0), .look 6 (.nth 0),
    .enter 5, .remove 7 (.nth 1)]

theorem refined_run_racing : ∃ s, Shared.run {} racing = some s ∧ s.table.size = 1 ∧
    s.table.lookup (.nth 0) = some 9 ∧ Refined racing s := by
  have hrun : (Shared.run {} racing).any fun s =>
      s.table.size = 1 ∧ s.table.lookup (.nth 0) = some 9 := by
    decide
  obtain ⟨s, hs, hfinal⟩ := (Option.any_eq_true ..).mp hrun
  obtain ⟨hsize, hlookup⟩ := of_decide_eq_true hfinal
  exact ⟨s, hs, hsize, hlookup, refined_run hs⟩

end HostedFs.Registry
