import HostedFs.Proofs.Registry.Runs

/-! # Who holds a block

    A block that is allocated is held by the table, under its token, or by one
    call: one that is about to enter its object, or one that has removed it and
    is about to free it. It never has two holders, so it is freed once.

    * `Holds`: a holder of a block.
    * `Kept`: each allocated block has one holder, and there are no others.
    * `kept_run`: this is so after every run.
-/

namespace HostedFs.Registry

variable {α : Type}

/-! ## Tokens of the table -/

/-- The tokens under which objects are registered. -/
def tokens (r : Registry α) : List Token :=
  r.entries.map Prod.fst

theorem tokens_insert (r : Registry α) (t : Token) (a : α) :
    (r.insert t a).tokens = t :: (r.erase t).tokens :=
  rfl

theorem tokens_erase (r : Registry α) (t : Token) :
    (r.erase t).tokens = r.tokens.filter (· ≠ t) := by
  simp only [tokens, erase, List.filter_map]
  rfl

theorem mem_tokens_iff (r : Registry α) (t : Token) : t ∈ r.tokens ↔ ∃ a, r.lookup t = some a := by
  constructor
  · intro h
    obtain ⟨e, he, rfl⟩ := List.mem_map.mp h
    cases hfind : r.entries.find? (·.1 = e.1) with
    | none => exact absurd (List.find?_eq_none.mp hfind e he) (by simp)
    | some d => exact ⟨d.2, by rw [lookup, hfind]; rfl⟩
  · intro h
    obtain ⟨a, ha⟩ := h
    obtain ⟨e, he, rfl⟩ := Option.map_eq_some_iff.mp ha
    have htoken : e.1 = t := by simpa using List.find?_some he
    exact List.mem_map.mpr ⟨e, List.mem_of_find?_eq_some he, htoken⟩

theorem not_mem_tokens_iff (r : Registry α) (t : Token) : t ∉ r.tokens ↔ r.lookup t = none := by
  rw [mem_tokens_iff, not_exists, Option.eq_none_iff_forall_ne_some]

theorem nodup_tokens_erase {r : Registry α} (h : r.tokens.Nodup) (t : Token) :
    (r.erase t).tokens.Nodup := by
  rw [tokens_erase]
  exact h.filter _

theorem nodup_tokens_insert {r : Registry α} (h : r.tokens.Nodup) (t : Token) (a : α) :
    (r.insert t a).tokens.Nodup := by
  rw [tokens_insert, List.nodup_cons]
  refine ⟨?_, nodup_tokens_erase h t⟩
  rw [tokens_erase, List.mem_filter]
  simp

theorem erase_of_lookup_eq_none {r : Registry α} {t : Token} (h : r.lookup t = none) :
    r.erase t = r := by
  have hnot := (not_mem_tokens_iff r t).mpr h
  have hkeep : ∀ e ∈ r.entries, decide (e.1 ≠ t) = true := by
    intro e he
    refine decide_eq_true fun heq => hnot ?_
    exact List.mem_map.mpr ⟨e, he, heq⟩
  rw [erase, List.filter_eq_self.mpr hkeep]

/-- An object entered under a token not in use is one more. -/
theorem size_insert {r : Registry α} {t : Token} (h : r.lookup t = none) (a : α) :
    (r.insert t a).size = r.size + 1 := by
  rw [insert, erase_of_lookup_eq_none h]
  rfl

/-- An object that is taken out is one less. -/
theorem size_erase {r : Registry α} (hnodup : r.tokens.Nodup) {t : Token} {a : α}
    (h : r.lookup t = some a) : (r.erase t).size + 1 = r.size := by
  have hmem : t ∈ r.tokens := (mem_tokens_iff r t).mpr ⟨a, h⟩
  have herase : (r.erase t).size = (r.tokens.erase t).length := by
    rw [hnodup.erase_eq_filter]
    show (r.erase t).entries.length = _
    rw [← List.length_map Prod.fst, ← tokens, tokens_erase]
    congr 1
    apply List.filter_congr
    intro u _
    by_cases hu : u = t <;> simp [hu]
  rw [herase, List.length_erase_of_mem hmem, tokens, List.length_map]
  have hpos : 0 < r.entries.length := by
    rw [← List.length_map Prod.fst]
    exact List.length_pos_of_mem hmem
  show r.entries.length - 1 + 1 = r.entries.length
  omega

/-! ## Holders -/

/-- What can hold a block: the table, or a call. -/
inductive Holder
  | table
  | call (n : Nat)
  deriving DecidableEq

/-- A holder has the block of a token. -/
def Holds (s : Shared α) : Holder → Token → Prop
  | .table, token => ∃ object, s.table.lookup token = some object
  | .call n, token => ∃ object, s.calls n = some (.allocated token object) ∨
      s.calls n = some (.removed token object)

/-- Every allocated block has just one holder, and there are no other holders. -/
structure Kept (s : Shared α) : Prop where
  tokens : s.table.tokens.Nodup
  blocks : s.blocks.Nodup
  mem_blocks_iff : ∀ token, token ∈ s.blocks ↔ ∃ holder, Holds s holder token
  unique : ∀ token holder other, Holds s holder token → Holds s other token → holder = other
  size : s.table.size + s.removals = s.entered

namespace Kept

variable {s : Shared α}

theorem mem_blocks (hs : Kept s) (holder : Holder) {token : Token} (h : Holds s holder token) :
    token ∈ s.blocks :=
  (hs.mem_blocks_iff token).mpr ⟨holder, h⟩

/-- What a call is about to enter is not in the table. -/
theorem unmapped (hs : Kept s) {call : Nat} {token : Token} {object : α}
    (h : s.calls call = some (.allocated token object)) : s.table.lookup token = none := by
  rw [Option.eq_none_iff_forall_ne_some]
  intro other hother
  have hholder : Holder.table = .call call :=
    hs.unique token _ _ ⟨other, hother⟩ ⟨object, .inl h⟩
  cases hholder

end Kept

theorem kept_start : Kept ({} : Shared α) where
  tokens := List.nodup_nil
  blocks := List.nodup_nil
  mem_blocks_iff token := by
    constructor
    · intro h
      exact absurd h (List.not_mem_nil)
    · intro h
      obtain ⟨holder, h⟩ := h
      cases holder with
      | table =>
        obtain ⟨object, h⟩ := h
        cases h
      | call n =>
        obtain ⟨object, h | h⟩ := h <;> cases h
  unique token holder other h := by
    cases holder with
    | table =>
      obtain ⟨object, h⟩ := h
      cases h
    | call n =>
      obtain ⟨object, h | h⟩ := h <;> cases h
  size := rfl

/-! ## Moves -/

/-- A block that changes hands leaves all others with their holders. -/
theorem kept_of_handover {s s' : Shared α} (hs : Kept s) {token : Token} {holder : Holder}
    (holder' : Holder) (htokens : s'.table.tokens.Nodup)
    (hsize : s'.table.size + s'.removals = s'.entered)
    (hblocks : s'.blocks = s.blocks) (hold : Holds s holder token)
    (hself : ∀ h, Holds s' h token ↔ h = holder')
    (hother : ∀ h u, u ≠ token → (Holds s' h u ↔ Holds s h u)) : Kept s' where
  tokens := htokens
  blocks := hblocks ▸ hs.blocks
  mem_blocks_iff u := by
    rw [hblocks]
    by_cases hu : u = token
    · subst hu
      exact ⟨fun _ => ⟨holder', (hself holder').mpr rfl⟩, fun _ => hs.mem_blocks holder hold⟩
    · simp only [hother _ u hu, hs.mem_blocks_iff]
  unique u h₁ h₂ := by
    by_cases hu : u = token
    · subst hu
      rw [hself, hself]
      exact fun h₁ h₂ => h₁.trans h₂.symm
    · rw [hother _ u hu, hother _ u hu]
      exact hs.unique u h₁ h₂
  size := hsize

/-- Holders stay who they are where the table and the steps of calls with blocks
    do. -/
theorem kept_of_same {s s' : Shared α} (hs : Kept s) (htable : s'.table = s.table)
    (hblocks : s'.blocks = s.blocks) (hentered : s'.entered = s.entered)
    (hremovals : s'.removals = s.removals)
    (hcalls : ∀ n token, Holds s' (.call n) token ↔ Holds s (.call n) token) : Kept s' := by
  have hholds : ∀ holder token, Holds s' holder token ↔ Holds s holder token := by
    intro holder token
    cases holder with
    | table => simp only [Holds, htable]
    | call n => exact hcalls n token
  refine ⟨htable ▸ hs.tokens, hblocks ▸ hs.blocks, fun token => ?_, fun token h₁ h₂ => ?_, ?_⟩
  · simp only [hblocks, hholds, hs.mem_blocks_iff]
  · rw [hholds, hholds]
    exact hs.unique token h₁ h₂
  · rw [htable, hentered, hremovals]
    exact hs.size

/-- A call that holds no block, before and after. -/
theorem holds_call_put {s : Shared α} {call n : Nat} {p : Progress α} {token : Token}
    (hnew : s.calls call = none)
    (hp : ∀ object, p ≠ .allocated token object ∧ p ≠ .removed token object) :
    Holds (s.put call p) (.call n) token ↔ Holds s (.call n) token := by
  by_cases hn : n = call
  · subst hn
    simp [Holds, hnew, hp]
  · simp only [Holds, Shared.put_calls_ne _ _ hn]

/-- A new block is held by the call that allocates it. -/
theorem kept_allocate {s : Shared α} (hs : Kept s) {call : Nat} {token : Token} (object : α)
    (new : s.calls call = none) (unused : token ∉ s.blocks) :
    Kept ({ s with blocks := token :: s.blocks }.put call (.allocated token object)) := by
  -- The block is new, so nobody holds it, and the call is its one holder.
  have hheld : ∀ holder, ¬ Holds s holder token := fun holder h => unused (hs.mem_blocks holder h)
  have hholds : ∀ holder u, Holds ({ s with blocks := token :: s.blocks }.put call
      (.allocated token object)) holder u ↔
        (holder = .call call ∧ u = token) ∨ Holds s holder u := by
    intro holder u
    cases holder with
    | table => simp [Holds]
    | call n =>
      by_cases hn : n = call
      · subst hn
        simp [Holds, new, eq_comm]
      · simp [Holds, Shared.put_calls_ne _ _ hn, hn]
  refine ⟨hs.tokens, List.nodup_cons.mpr ⟨unused, hs.blocks⟩, fun u => ?_,
    fun u h₁ h₂ => ?_, hs.size⟩
  · simp only [hholds, Shared.put_blocks, List.mem_cons, hs.mem_blocks_iff]
    constructor
    · rintro (rfl | ⟨holder, h⟩)
      · exact ⟨.call call, .inl ⟨rfl, rfl⟩⟩
      · exact ⟨holder, .inr h⟩
    · rintro ⟨holder, ⟨-, rfl⟩ | h⟩
      · exact .inl rfl
      · exact .inr ⟨holder, h⟩
  · rw [hholds, hholds]
    rintro (⟨rfl, rfl⟩ | h₁) (⟨rfl, hu⟩ | h₂)
    · rfl
    · exact absurd h₂ (hheld _)
    · subst hu
      exact absurd h₁ (hheld _)
    · exact hs.unique u _ _ h₁ h₂

/-- A call that enters its object hands the block to the table. -/
theorem kept_enter {s : Shared α} (hs : Kept s) {call : Nat} {token : Token} {object : α}
    (ready : s.calls call = some (.allocated token object)) :
    Kept ({ s with table := s.table.insert token object, entered := s.entered + 1 }.put call
      (.registered token)) := by
  -- The call held the block, so by `unique` nobody else did.
  have hold : Holds s (.call call) token := ⟨object, .inl ready⟩
  refine kept_of_handover hs .table (nodup_tokens_insert hs.tokens _ _) ?_ rfl hold ?_ ?_
  · have hsize := size_insert (hs.unmapped ready) object
    have hbefore := hs.size
    simp only [Shared.put_table, Shared.put_removals, Shared.put_entered, hsize]
    omega
  · intro holder
    cases holder with
    | table => simp [Holds]
    | call n =>
      by_cases hn : n = call
      · subst hn
        simp [Holds]
      · have hother : ¬ Holds s (.call n) token := fun h =>
          hn (Holder.call.inj (hs.unique token _ _ h hold))
        simpa [Holds, Shared.put_calls_ne _ _ hn] using hother
  · intro holder u hu
    cases holder with
    | table => simp [Holds, lookup_insert_ne _ _ hu]
    | call n =>
      by_cases hn : n = call
      · subst hn
        simp [Holds, ready, Ne.symm hu]
      · simp [Holds, Shared.put_calls_ne _ _ hn]

/-- A call that removes a token takes the block from the table. -/
theorem kept_take {s : Shared α} (hs : Kept s) {call : Nat} {token : Token} {object : α}
    (new : s.calls call = none) (mapped : s.table.lookup token = some object) :
    Kept ({ s with table := s.table.erase token, removals := s.removals + 1 }.put call
      (.removed token object)) := by
  -- The table held the block, so by `unique` no call did.
  have hold : Holds s .table token := ⟨object, mapped⟩
  refine kept_of_handover hs (.call call) (nodup_tokens_erase hs.tokens _) ?_ rfl hold ?_ ?_
  · have hsize := size_erase hs.tokens mapped
    have hbefore := hs.size
    simp only [Shared.put_table, Shared.put_removals, Shared.put_entered]
    omega
  · intro holder
    cases holder with
    | table => simp [Holds]
    | call n =>
      by_cases hn : n = call
      · subst hn
        simp [Holds]
      · have hother : ¬ Holds s (.call n) token := fun h => nomatch hs.unique token _ _ h hold
        simpa [Holds, Shared.put_calls_ne _ _ hn, hn] using hother
  · intro holder u hu
    cases holder with
    | table => simp [Holds, lookup_erase_ne _ hu]
    | call n =>
      by_cases hn : n = call
      · subst hn
        simp [Holds, new, Ne.symm hu]
      · simp [Holds, Shared.put_calls_ne _ _ hn]

/-- A call that frees its block leaves it without a holder. -/
theorem kept_free {s : Shared α} (hs : Kept s) {call : Nat} {token : Token} {object : α}
    (ready : s.calls call = some (.removed token object)) :
    Kept ({ s with blocks := s.blocks.erase token }.put call (.released (some object))) := by
  -- The call was the one holder of its block.
  have hold : Holds s (.call call) token := ⟨object, .inr ready⟩
  have hholds : ∀ holder u, Holds ({ s with blocks := s.blocks.erase token }.put call
      (.released (some object))) holder u ↔ u ≠ token ∧ Holds s holder u := by
    intro holder u
    by_cases hholder : holder = .call call
    · subst hholder
      simp [Holds, ready, eq_comm]
    · have hsame : Holds ({ s with blocks := s.blocks.erase token }.put call
          (.released (some object))) holder u ↔ Holds s holder u := by
        cases holder with
        | table => simp [Holds]
        | call n =>
          have hn : n ≠ call := fun heq => hholder (congrArg Holder.call heq)
          simp [Holds, Shared.put_calls_ne _ _ hn]
      rw [hsame]
      constructor
      · intro h
        refine ⟨?_, h⟩
        rintro rfl
        exact hholder (hs.unique u _ _ h hold)
      · exact fun h => h.2
  refine ⟨hs.tokens, hs.blocks.erase token, fun u => ?_, fun u h₁ h₂ => ?_, hs.size⟩
  · simp only [hholds, Shared.put_blocks, hs.blocks.mem_erase_iff, hs.mem_blocks_iff,
      exists_and_left]
  · rw [hholds, hholds]
    exact fun h₁ h₂ => hs.unique u _ _ h₁.2 h₂.2

theorem kept_move {s s' : Shared α} {a : Step α} (hs : Kept s) (h : Move s a s') : Kept s' := by
  cases h with
  | allocate new unused => exact kept_allocate hs _ new unused
  | enter ready => exact kept_enter hs ready
  | take new mapped => exact kept_take hs new mapped
  | free ready => exact kept_free hs ready
  | look new => exact kept_of_same hs rfl rfl rfl rfl fun n token => holds_call_put new (by simp)
  | miss new => exact kept_of_same hs rfl rfl rfl rfl fun n token => holds_call_put new (by simp)

/-- After every run each allocated block has just one holder. -/
theorem kept_run {steps : List (Step α)} {s : Shared α} (h : Shared.run {} steps = some s) :
    Kept s :=
  run_induction (P := fun _ s => Kept s) kept_start (fun _ _ _ _ _ hs hmove => kept_move hs hmove) h

end HostedFs.Registry
