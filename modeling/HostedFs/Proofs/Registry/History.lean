import HostedFs.Proofs.Registry.Runs

/-! # What is registered, read off the past

    The table is told by the steps alone: an object stands under a token if the
    latest of the entries under that token was its own, and nobody has removed
    the token since.

    * `Latest`: the object that the steps leave under a token.
    * `lookup_run`: after every run the table has just these objects.
-/

namespace HostedFs.Registry

variable {α : Type}

/-- A step enters an object under the token. -/
def EntersUnder (steps : List (Step α)) (token : Token) (a : Step α) : Prop :=
  ∃ call object, a = .enter call ∧ .allocate call object token ∈ steps

/-- The latest entry under the token was of the object, and the token was not
    removed since. -/
def Latest (steps : List (Step α)) (token : Token) (object : α) : Prop :=
  ∃ before call after, steps = before ++ .enter call :: after ∧
    .allocate call object token ∈ before ∧ (∀ a ∈ after, ¬ EntersUnder steps token a) ∧
    ∀ other, .remove other token ∉ after

theorem not_latest_nil (token : Token) (object : α) : ¬ Latest [] token object := by
  intro h
  obtain ⟨before, call, after, hsplit, -⟩ := h
  exact absurd hsplit (by simp)

/-! ## One more step -/

/-- Where a list with one more element at its end is split, the part after the
    split is empty or ends with that element. -/
theorem concat_eq_split {β : Type} {steps before after : List β} {a b : β}
    (h : steps ++ [a] = before ++ b :: after) :
    (after = [] ∧ steps = before ∧ a = b) ∨
      ∃ rest, after = rest ++ [a] ∧ steps = before ++ b :: rest := by
  rcases List.eq_nil_or_concat after with rfl | ⟨rest, c, rfl⟩
  · obtain ⟨hsteps, hab⟩ := List.append_inj' h rfl
    exact .inl ⟨rfl, hsteps, by simpa using hab⟩
  · have h : steps ++ [a] = (before ++ b :: rest) ++ [c] := by simpa using h
    obtain ⟨hsteps, hac⟩ := List.append_inj' h rfl
    cases hac
    exact .inr ⟨rest, by simp, hsteps⟩

/-- What enters under a token still does so after one more step; nothing else
    does, unless the new step allocates for a call that has entered before. -/
theorem entersUnder_concat {steps : List (Step α)} {a : Step α} {token : Token} {b : Step α}
    (hnew : ∀ call object, a = .allocate call object token → .enter call ∉ steps)
    (hb : b ∈ steps) : EntersUnder (steps ++ [a]) token b ↔ EntersUnder steps token b := by
  constructor
  · intro h
    obtain ⟨call, object, rfl, hallocate⟩ := h
    rw [List.mem_append, List.mem_singleton] at hallocate
    rcases hallocate with hallocate | heq
    · exact ⟨call, object, rfl, hallocate⟩
    · exact absurd hb (hnew call object heq.symm)
  · intro h
    obtain ⟨call, object, rfl, hallocate⟩ := h
    exact ⟨call, object, rfl, List.mem_append_left _ hallocate⟩

/-- A step that neither enters under the token nor removes it leaves what stands
    there. -/
theorem latest_concat_of_other {steps : List (Step α)} {a : Step α} {token : Token} {object : α}
    (hnew : ∀ call object, a = .allocate call object token → .enter call ∉ steps)
    (henter : ¬ EntersUnder (steps ++ [a]) token a) (hremove : ∀ call, a ≠ .remove call token) :
    Latest (steps ++ [a]) token object ↔ Latest steps token object := by
  constructor
  · intro h
    -- The step is not the entry that `Latest` names, which lies in `steps` already.
    obtain ⟨before, call, after, hsplit, hallocate, hlast, hkept⟩ := h
    rcases concat_eq_split hsplit with ⟨rfl, rfl, rfl⟩ | ⟨rest, rfl, rfl⟩
    · exact absurd ⟨call, object, rfl, List.mem_append_left _ hallocate⟩ henter
    · refine ⟨before, call, rest, rfl, hallocate, fun b hb hunder => ?_, fun other hother => ?_⟩
      · exact hlast b (List.mem_append_left _ hb)
          ((entersUnder_concat hnew (by simp [hb])).mpr hunder)
      · exact hkept other (List.mem_append_left _ hother)
  · intro h
    -- The other way round, the step comes after that entry and spoils nothing of it.
    obtain ⟨before, call, after, rfl, hallocate, hlast, hkept⟩ := h
    refine ⟨before, call, after ++ [a], by simp, hallocate, fun b hb hunder => ?_,
      fun other hother => ?_⟩
    · rw [List.mem_append, List.mem_singleton] at hb
      rcases hb with hb | rfl
      · exact hlast b hb ((entersUnder_concat hnew (by simp [hb])).mp hunder)
      · exact henter hunder
    · rw [List.mem_append, List.mem_singleton] at hother
      rcases hother with hother | heq
      · exact hkept other hother
      · exact hremove other heq.symm

/-- Nothing stands under a token that was just removed. -/
theorem not_latest_concat_remove {steps : List (Step α)} {call : Nat} {token : Token} {object : α} :
    ¬ Latest (steps ++ [.remove call token]) token object := by
  intro h
  obtain ⟨before, other, after, hsplit, -, -, hkept⟩ := h
  rcases concat_eq_split hsplit with ⟨-, -, heq⟩ | ⟨rest, rfl, -⟩
  · cases heq
  · exact hkept call (by simp)

/-- What was just entered under a token stands there, and nothing else. -/
theorem latest_concat_enter {steps : List (Step α)} {call : Nat} {token : Token}
    {object other : α} (hallocate : .allocate call object token ∈ steps)
    (honce : ∀ object' token', .allocate call object' token' ∈ steps →
      object = object' ∧ token = token') :
    Latest (steps ++ [.enter call]) token other ↔ other = object := by
  constructor
  · intro h
    obtain ⟨before, call', after, hsplit, hallocate', hlast, -⟩ := h
    rcases concat_eq_split hsplit with ⟨-, rfl, heq⟩ | ⟨rest, rfl, rfl⟩
    · cases heq
      exact (honce other token hallocate').1.symm
    · exact absurd ⟨call, object, rfl, List.mem_append_left _ hallocate⟩
        (hlast (.enter call) (by simp))
  · intro h
    subst h
    exact ⟨steps, call, [], rfl, hallocate, by simp, by simp⟩

/-! ## The table -/

/-- The objects under the tokens are those that the steps have left there. -/
theorem lookup_move {steps : List (Step α)} {s s' : Shared α} {a : Step α} (hs : Traced steps s)
    (hlookup : ∀ token object, s.table.lookup token = some object ↔ Latest steps token object)
    (h : Move s a s') (token : Token) (object : α) :
    s'.table.lookup token = some object ↔ Latest (steps ++ [a]) token object := by
  cases h with
  | @allocate call object' token' new unused =>
    -- The call is new, so it has not entered anything.
    have hnone : .enter call ∉ steps := fun hmem => hs.fresh call new _ hmem rfl
    rw [latest_concat_of_other]
    · exact hlookup token object
    · intro call' _ heq
      cases heq
      exact hnone
    · intro hunder
      obtain ⟨_, _, heq, -⟩ := hunder
      cases heq
    · exact fun _ => nofun
  | @enter call object' token' ready =>
    have hallocate := hs.allocated call token' object' ready
    have honce := fun o t => hs.once call object' token' o t hallocate
    by_cases htoken : token = token'
    · subst htoken
      rw [latest_concat_enter hallocate honce]
      simp [eq_comm]
    · rw [latest_concat_of_other]
      · simpa [lookup_insert_ne _ _ htoken] using hlookup token object
      · exact fun _ _ => nofun
      · intro hunder
        obtain ⟨call', object'', heq, hmem⟩ := hunder
        cases heq
        rw [List.mem_append, List.mem_singleton] at hmem
        rcases hmem with hmem | heq
        · exact htoken (honce object'' token hmem).2.symm
        · cases heq
      · exact fun _ => nofun
  | @take call object' token' new mapped =>
    by_cases htoken : token = token'
    · subst htoken
      simp [not_latest_concat_remove]
    · rw [latest_concat_of_other]
      · simpa [lookup_erase_ne _ htoken] using hlookup token object
      · exact fun _ _ => nofun
      · intro hunder
        obtain ⟨_, _, heq, -⟩ := hunder
        cases heq
      · intro call' heq
        cases heq
        exact htoken rfl
  | @miss call token' new unmapped =>
    by_cases htoken : token = token'
    · subst htoken
      simp [not_latest_concat_remove, unmapped]
    · rw [latest_concat_of_other]
      · exact hlookup token object
      · exact fun _ _ => nofun
      · intro hunder
        obtain ⟨_, _, heq, -⟩ := hunder
        cases heq
      · intro call' heq
        cases heq
        exact htoken rfl
  | _ =>
    rw [latest_concat_of_other]
    · exact hlookup token object
    · exact fun _ _ => nofun
    · intro hunder
      obtain ⟨_, _, heq, -⟩ := hunder
      cases heq
    · exact fun _ => nofun

/-- After every run the table has just the objects that the steps have left. -/
theorem lookup_run {steps : List (Step α)} {s : Shared α} (h : Shared.run {} steps = some s)
    (token : Token) (object : α) :
    s.table.lookup token = some object ↔ Latest steps token object := by
  refine run_induction (P := fun steps s => ∀ token object,
    s.table.lookup token = some object ↔ Latest steps token object) ?_ ?_ h token object
  · intro token object
    simp [lookup, not_latest_nil]
  · intro steps s a s' hrun ih hmove
    exact lookup_move (traced_run hrun) ih hmove

end HostedFs.Registry
