import HostedFs.Proofs.Signal.Sharing

/-! # What listeners can rely on

    However many threads share the bridge and however their steps fall, the bridge
    counts the registrations that are there, each in a slot of its own, and has its
    handlers installed exactly while there are any.

    * `FirstCame`, `saved_run`: what is saved was found by the first listener.
    * `Consistent`, `shared_run`: what holds after every run.
-/

namespace HostedFs.Signal

namespace Sharing

/-! ## What was saved -/

/-- After a step nobody listens; or somebody did before, and what was saved is
    untouched; or the first listener came, and what it found was saved. -/
theorem saved_move {s s' : Sharing} {label : Label} (h : Move s label s') :
    s'.bridge.active = 0 ∨ (0 < s.bridge.active ∧ s'.bridge.saved = s.bridge.saved) ∨
      ∃ n refusal, label = .register n refusal ∧ s.bridge.active = 0 ∧
        s'.bridge.saved = s.bridge.dispositions.save := by
  -- Most moves touch neither the count nor what is saved.
  have hkept (hactive : s'.bridge.active = s.bridge.active)
      (hsaved : s'.bridge.saved = s.bridge.saved) :
      s'.bridge.active = 0 ∨ 0 < s.bridge.active ∧ s'.bridge.saved = s.bridge.saved := by
    rw [hactive]
    exact (Nat.eq_zero_or_pos _).imp_right fun hpos => ⟨hpos, hsaved⟩
  rw [← or_assoc]
  cases h with
  | @register n slot refusal bridge h done =>
    obtain ⟨-, -, -, ⟨hzero, -, hsaved⟩ | hmore⟩ := Bridge.register_accepted done
    · exact .inr ⟨n, refusal, rfl, hzero, hsaved⟩
    · exact .inl (.inr hmore)
  | refuse h done =>
    obtain ⟨rfl, -⟩ := Bridge.register_refused done
    exact .inl (hkept rfl rfl)
  | @unregister n slot h =>
    refine .inl ((Nat.eq_zero_or_pos _).imp_right fun hpos => ?_)
    have hsome : 0 < (s.bridge.unregister slot).active := hpos
    have hmore : 0 < s.bridge.active := by
      rw [Bridge.active_unregister] at hsome
      omega
    exact ⟨hmore, Bridge.saved_unregister hsome⟩
  | _ => exact .inl (hkept rfl rfl)

/-- The last step by which the bridge came into use, with the state before it:
    nobody listened, and since then somebody always has. -/
structure FirstCame (d : Dispositions) (labels : List Label) (before : List Label) (n : Nat)
    (refusal : Signal → Option Errno) (after : List Label) (u : Sharing) : Prop where
  split : labels = before ++ .register n refusal :: after
  run : (start d).run before = some u
  idle : u.bridge.active = 0
  busy : ∀ among v, among <+: after →
    (start d).run (before ++ .register n refusal :: among) = some v → 0 < v.bridge.active

/-- While somebody listens, what the first listener found is saved. -/
theorem saved_run {d : Dispositions} {labels : List Label} {s : Sharing}
    (h : (start d).run labels = some s) (hpos : 0 < s.bridge.active) :
    ∃ before n refusal after u, FirstCame d labels before n refusal after u ∧
      s.bridge.saved = u.bridge.dispositions.save := by
  refine run_induction (P := fun labels s => 0 < s.bridge.active →
    ∃ before n refusal after u, FirstCame d labels before n refusal after u ∧
      s.bridge.saved = u.bridge.dispositions.save)
    (fun hpos => absurd hpos (Nat.lt_irrefl 0)) ?_ h hpos
  intro labels s label s' hrun ih hmove hpos
  have hrun' : (start d).run (labels ++ [label]) = some s' :=
    run_concat.mpr ⟨s, hrun, hmove⟩
  -- Nobody listens after the step, or somebody did before it, or the first one has come.
  rcases saved_move hmove with hzero | ⟨hbusy, hsaved⟩ | ⟨n, refusal, rfl, hidle, hsaved⟩
  · exact absurd hzero (Nat.ne_of_gt hpos)
  · obtain ⟨before, n, refusal, after, u, hfirst, hfound⟩ := ih hbusy
    refine ⟨before, n, refusal, after ++ [label], u, ⟨?_, hfirst.run, hfirst.idle, ?_⟩,
      hsaved.trans hfound⟩
    · simp [hfirst.split]
    · intro among v hprefix hv
      rcases List.prefix_concat_iff.mp hprefix with rfl | hprefix
      · have hsplit : before ++ .register n refusal :: (after ++ [label]) = labels ++ [label] := by
          simp [hfirst.split]
        rw [hsplit, hrun'] at hv
        cases hv
        exact hpos
      · exact hfirst.busy among v hprefix hv
  · refine ⟨labels, n, refusal, [], s, ⟨rfl, hrun, hidle, ?_⟩, hsaved⟩
    intro among v hprefix hv
    obtain rfl := List.prefix_nil.mp hprefix
    cases hrun'.symm.trans hv
    exact hpos

/-! ## What listeners can rely on -/

namespace Linked

variable {d : Dispositions} {s s' : Sharing} {n : Nat} {refusal : Signal → Option Errno}

/-- The bridge's handler runs for a signal while somebody listens. -/
theorem handles_iff (hs : Linked d s) (signal : Signal) :
    s.bridge.handles signal = true ↔ 0 < s.bridge.active :=
  hs.sound.handles_iff hs.foreign signal

/-- What a registration that is refused leaves behind. -/
theorem refused (hs : Linked d s) {e : RegisterError}
    (h : s.step (.register n refusal) = some s') (he : s'.stages n = some (.refused e)) :
    s'.bridge = s.bridge ∧ (e = .tooMany ∧ s.bridge.active = slotCount ∨
      ∃ cause, e = .refused cause ∧ s.bridge.active = 0 ∧
        all.findSome? refusal = some cause) := by
  cases step_eq_some_iff.mp h with
  | register _ done =>
    rw [put_stages_self] at he
    cases he
  | refuse _ done =>
    rw [put_stages_self] at he
    cases he
    obtain ⟨rfl, hwhy⟩ := Bridge.register_refused done
    refine ⟨rfl, hwhy.imp_left ?_⟩
    intro hfull
    exact ⟨hfull.1, hs.sound.active_eq_of_full hfull.2⟩

/-- When a registration is refused. -/
theorem refused_iff (hs : Linked d s) (h : s.step (.register n refusal) = some s') :
    (∃ e, s'.stages n = some (.refused e)) ↔
      s.bridge.active = slotCount ∨ s.bridge.active = 0 ∧ ∃ signal, refusal signal ≠ none := by
  have hrefuses (hwhy : ∃ signal, refusal signal ≠ none) : all.findSome? refusal ≠ none := by
    intro hnone
    obtain ⟨signal, hsignal⟩ := hwhy
    exact hsignal (Dispositions.findSome?_all_eq_none.mp hnone signal)
  constructor
  · intro hrefused
    obtain ⟨e, he⟩ := hrefused
    obtain ⟨-, ⟨-, hfull⟩ | ⟨cause, -, hzero, hcause⟩⟩ := hs.refused h he
    · exact .inl hfull
    · refine .inr ⟨hzero, ?_⟩
      by_contra hnone
      have hall : all.findSome? refusal = none :=
        Dispositions.findSome?_all_eq_none.mpr (by simpa using hnone)
      cases hcause.symm.trans hall
  · intro hwhy
    cases step_eq_some_iff.mp h with
    | @register _ slot _ bridge _ done =>
      exfalso
      obtain ⟨-, -, hactive, hcase⟩ := Bridge.register_accepted done
      have hsound := hs.sound.register n refusal
      rw [done] at hsound
      -- Had it been accepted, there would be one listener more, and either too many of them or
      -- handlers that the system has not refused.
      have hle : s.bridge.active + 1 ≤ slotCount := hactive ▸ hsound.active_le
      rcases hwhy with hfull | ⟨hzero, hsignal⟩
      · omega
      · rcases hcase with ⟨-, hnone, -⟩ | ⟨hpos, -⟩
        · exact hrefuses hsignal hnone
        · exact absurd hzero (Nat.ne_of_gt hpos)
    | refuse _ done => exact ⟨_, put_stages_self ..⟩

end Linked

/-- A shared bridge after a run of steps. -/
structure Consistent (d : Dispositions) (labels : List Label) (s : Sharing) : Prop where
  /-- The lock was taken for one registration at most. -/
  lock_iff : ∀ n, (∃ stage, s.stages n = some stage ∧ stage.holding = true) ↔ s.lock = some n
  /-- As many are counted as slots are occupied. -/
  active_eq_occupied : s.bridge.active = s.bridge.slots.countP Option.isSome
  /-- They are the registrations that are there. -/
  active_eq_present : s.present.Finite ∧ s.bridge.active = s.present.ncard
  active_le : s.bridge.active ≤ 32
  /-- Each registration that is there has one slot, and it wakes its owner. -/
  slot_of_present : ∀ n ∈ s.present, ∃ slot wake, s.Owns n slot ∧
    s.bridge.slots[slot]? = some (some wake) ∧ wake.owner = n
  /-- No two of them have the same. -/
  slot_distinct : ∀ n m slot, s.Owns n slot → s.Owns m slot → n = m
  /-- An occupied slot belongs to the registration that it wakes. -/
  owner_of_slot : ∀ slot wake, s.bridge.slots[slot]? = some (some wake) → s.Owns wake.owner slot
  /-- Both handlers are the bridge's while somebody listens. -/
  handles_iff : ∀ signal, s.bridge.handles signal = true ↔ 0 < s.bridge.active
  /-- What the last first listener found is saved then. -/
  saved : 0 < s.bridge.active → ∃ before n refusal after u,
    FirstCame d labels before n refusal after u ∧
      s.bridge.saved = u.bridge.dispositions.save
  /-- Otherwise the process does what it was told to do. -/
  restored : s.bridge.active = 0 → s.bridge.dispositions = told d labels
  /-- A registration is refused without a free slot, or if it is the first and the
      system refuses a handler. -/
  refused_iff : ∀ n refusal s', s.step (.register n refusal) = some s' →
    ((∃ e, s'.stages n = some (.refused e)) ↔
      s.bridge.active = 32 ∨ s.bridge.active = 0 ∧ ∃ signal, refusal signal ≠ none)
  /-- It changes nothing of the bridge then, and tells why. -/
  refused : ∀ n refusal s' e, s.step (.register n refusal) = some s' →
    s'.stages n = some (.refused e) → s'.bridge = s.bridge ∧
      (e = .tooMany ∧ s.bridge.active = 32 ∨
        ∃ cause, e = .refused cause ∧ s.bridge.active = 0 ∧ all.findSome? refusal = some cause)

/-- Every run of registrations, drops and signals by any number of threads leaves the bridge
    `Consistent`, if the dispositions at its start are those of others (`Foreign`). -/
theorem shared_run {d : Dispositions} (hd : d.Foreign) {labels : List Label} {s : Sharing}
    (h : (start d).run labels = some s) : Consistent d labels s where
  lock_iff := (linked_run hd h).lock_iff
  active_eq_occupied := (linked_run hd h).sound.active
  active_eq_present := ⟨(linked_run hd h).finite, (linked_run hd h).count.symm⟩
  active_le := (linked_run hd h).sound.active_le
  slot_of_present n hn := by
    obtain ⟨slot, howns⟩ := hn
    obtain ⟨wake, hwake, howner⟩ := (linked_run hd h).slot_of_owns howns
    exact ⟨slot, wake, howns, hwake, howner⟩
  slot_distinct n m slot hn hm := by
    have hs := linked_run hd h
    have hsame := ((hs.owner_iff n slot).mp hn).symm.trans ((hs.owner_iff m slot).mp hm)
    exact Option.some.inj hsame
  owner_of_slot slot wake hwake :=
    ((linked_run hd h).owner_iff _ slot).mpr (Bridge.ownerAt?_eq_some.mpr ⟨wake, hwake, rfl⟩)
  handles_iff := (linked_run hd h).handles_iff
  saved := saved_run h
  restored hzero := ((linked_run hd h).sound.idle hzero).1
  refused_iff n refusal s' := (linked_run hd h).refused_iff
  refused n refusal s' e := (linked_run hd h).refused

/-- Two listen, the first goes and a third takes its slot; all go, the process is
    told something else, and a first listener is refused the second handler before
    another one comes. -/
def sharedByMany : List Label :=
  [.begin 0, .begin 1, .lock 0, .register 0 (fun _ => none), .lock 1, .begin 2,
    .register 1 (fun _ => none), .raise .interrupt, .drop 0, .lock 0, .unregister 0, .lock 2,
    .register 2 (fun _ => none), .read 1, .drop 1, .drop 2, .lock 2, .unregister 2, .lock 1,
    .unregister 1, .assign ⟨.other 5, .other 6⟩, .begin 3, .begin 4, .lock 3,
    .register 3 (fun signal => if signal = .terminate then some ⟨22⟩ else none), .lock 4,
    .register 4 (fun _ => none)]

theorem shared_run_by_many : ∃ s, (start {}).run sharedByMany = some s ∧ s.bridge.active = 1 ∧
    s.stages 3 = some (.refused (.refused ⟨22⟩)) ∧ Consistent {} sharedByMany s := by
  have hrun : ((start {}).run sharedByMany).any fun s =>
      s.bridge.active = 1 ∧ s.stages 3 = some (.refused (.refused ⟨22⟩)) := by
    decide
  obtain ⟨s, hs, hfinal⟩ := (Option.any_eq_true ..).mp hrun
  obtain ⟨hactive, hrefused⟩ := of_decide_eq_true hfinal
  exact ⟨s, hs, hactive, hrefused, shared_run (by decide) hs⟩

end Sharing

end HostedFs.Signal
