import HostedFs.Proofs.Signal.Bridge
import HostedFs.Signal.Group
import Mathlib.Data.List.Induction

/-! # Listeners that take turns

    After a signal was raised every listener reads it in a turn of its own. Whatever
    the order of the turns is, the group comes to the same: every listener that was
    armed has run its callback once, and whoever's callback succeeded has given its
    slot back.

    * `Counter.tick`: what one signal does to a listener.
    * `Group.Tended`: the bridge and the listeners fit, and what waits for each.
    * `Group.turn`, `Group.turns`: one listener reads once, and several in a row.
    * `Tended.turns_of_quiet`: what all turns come to.
    * `Tended.raise_eq_turns`, `turns_eq_raise`: to raise a signal is to let all
      listeners take their turns, in any order.
-/

namespace HostedFs.Signal

/-! ## Counters -/

namespace Counter

/-- The listener listens. -/
def armed (c : Counter) : Bool :=
  c.slot.isSome

/-- The listener after a signal, if it listens. -/
def tick (c : Counter) : Counter :=
  match c.slot with
  | none => c
  | some slot =>
    { c with
      fired := c.fired + 1
      slot := if c.stopAfter ≤ c.fired + 1 then none else some slot }

theorem armed_of_slot {c : Counter} {slot : Nat} (h : c.slot = some slot) : c.armed := by
  rw [armed, h]
  rfl

theorem tick_of_not_armed {c : Counter} (h : ¬ c.armed) : c.tick = c := by
  have hslot : c.slot = none := by simpa [armed] using h
  rw [tick, hslot]

end Counter

/-! ## One of a list -/

theorem getElem?_set_of_some {α : Type} {l : List α} {i j : Nat} {a b x : α} (h : l[i]? = some a) :
    (l.set i b)[j]? = some x ↔ (j = i ∧ x = b) ∨ (j ≠ i ∧ l[j]? = some x) := by
  obtain ⟨hlt, -⟩ := List.getElem?_eq_some_iff.mp h
  by_cases hji : j = i
  · subst hji
    simp [List.getElem?_set_self hlt, eq_comm]
  · simp [List.getElem?_set_ne (Ne.symm hji), hji]

theorem countP_set_add {α : Type} (p : α → Bool) {l : List α} {i : Nat} {a : α}
    (h : l[i]? = some a) (b : α) :
    (l.set i b).countP p + (p a).toNat = l.countP p + (p b).toNat := by
  obtain ⟨hlt, rfl⟩ := List.getElem?_eq_some_iff.mp h
  have hpos : p l[i] → 0 < l.countP p := fun hp =>
    List.countP_pos_iff.mpr ⟨_, List.getElem_mem hlt, hp⟩
  rw [List.countP_set hlt]
  cases hp : p l[i] <;> cases p b <;> simp
  all_goals
    have hsome := hpos hp
    omega

namespace Group

/-! ## Bridge and listeners -/

/-- A slot belongs to a listener just when that listens in it. What waits there is
    given for each listener. -/
structure Tended (d : Dispositions) (waiting : Nat → List Signal) (g : Group) : Prop where
  sound : Bridge.Sound d g.bridge
  count : g.bridge.active = g.counters.countP Counter.armed
  owned : ∀ (i : Nat) (c : Counter) (slot : Nat), g.counters[i]? = some c → c.slot = some slot →
    g.bridge.slots[slot]? = some (some ⟨i, waiting i⟩)
  owner : ∀ (slot : Nat) (wake : Wake Nat), g.bridge.slots[slot]? = some (some wake) →
    ∃ c, g.counters[wake.owner]? = some c ∧ c.slot = some slot

/-- Nothing waits for any listener. -/
def Quiet (g : Group) : Prop :=
  ∀ c ∈ g.counters, ∀ slot, c.slot = some slot → g.bridge.pendingAt slot = []

variable {d : Dispositions} {waiting : Nat → List Signal} {g : Group}

theorem tended_start (d : Dispositions) (waiting : Nat → List Signal) :
    Tended d waiting { bridge := { dispositions := d } } where
  sound := Bridge.sound_start d
  count := rfl
  owned _ _ _ h := by cases h
  owner slot wake h := by
    have hmem := List.mem_of_getElem? h
    exact absurd (List.eq_of_mem_replicate hmem) (by simp)

namespace Tended

/-- Of whom a slot is, and what waits there, the listeners tell. -/
theorem slot_eq (hg : Tended d waiting g) {slot : Nat} {wake : Wake Nat}
    (h : g.bridge.slots[slot]? = some (some wake)) : wake = ⟨wake.owner, waiting wake.owner⟩ := by
  obtain ⟨c, hc, hslot⟩ := hg.owner slot wake h
  exact Option.some.inj (Option.some.inj (h.symm.trans (hg.owned _ c slot hc hslot)))

theorem pendingAt_eq (hg : Tended d waiting g) {i slot : Nat} {c : Counter}
    (hc : g.counters[i]? = some c) (hslot : c.slot = some slot) :
    g.bridge.pendingAt slot = waiting i := by
  have hwake := Bridge.wakeAt?_eq_some.mpr (hg.owned i c slot hc hslot)
  simp [Bridge.pendingAt, hwake]

/-- Two listeners do not listen in the same slot. -/
theorem eq_of_slot (hg : Tended d waiting g) {i j slot : Nat} {c c' : Counter}
    (hc : g.counters[i]? = some c) (hslot : c.slot = some slot) (hc' : g.counters[j]? = some c')
    (hslot' : c'.slot = some slot) : i = j := by
  have hi := hg.owned i c slot hc hslot
  cases hi.symm.trans (hg.owned j c' slot hc' hslot')
  rfl

/-- Only what waits for those who listen matters. -/
theorem congr (hg : Tended d waiting g) {waiting' : Nat → List Signal}
    (h : ∀ i c, g.counters[i]? = some c → c.armed → waiting i = waiting' i) :
    Tended d waiting' g where
  sound := hg.sound
  count := hg.count
  owned i c slot hc hslot := by
    rw [hg.owned i c slot hc hslot, h i c hc (Counter.armed_of_slot hslot)]
  owner := hg.owner

/-- The listeners, and what waits for them, determine the bridge. -/
theorem eq_of_counters {g' : Group} (hg : Tended d waiting g) (hg' : Tended d waiting g')
    (h : g.counters = g'.counters) : g = g' := by
  have hactive : g.bridge.active = g'.bridge.active := by rw [hg.count, hg'.count, h]
  -- A slot is taken on one side by the listener that has it on the other.
  have hkeeps {a b : Group} (ha : Tended d waiting a) (hb : Tended d waiting b)
      (hab : a.counters = b.counters) {slot : Nat} {wake : Wake Nat}
      (hwake : a.bridge.slots[slot]? = some (some wake)) :
      b.bridge.slots[slot]? = some (some wake) := by
    obtain ⟨c, hc, hslot⟩ := ha.owner slot wake hwake
    rw [ha.slot_eq hwake, hb.owned _ c slot (hab ▸ hc) hslot]
  have hslots : g.bridge.slots = g'.bridge.slots := by
    refine List.ext_getElem (hg.sound.length.trans hg'.sound.length.symm) fun slot hlt hlt' => ?_
    cases hwake : g.bridge.slots[slot] with
    | some wake =>
      have hthere := hkeeps hg hg' h (List.getElem?_eq_some_iff.mpr ⟨hlt, hwake⟩)
      exact (List.getElem?_eq_some_iff.mp hthere).2.symm
    | none =>
      cases hwake' : g'.bridge.slots[slot] with
      | none => rfl
      | some wake =>
        have hthere := hkeeps hg' hg h.symm (List.getElem?_eq_some_iff.mpr ⟨hlt', hwake'⟩)
        exact hwake.symm.trans (List.getElem?_eq_some_iff.mp hthere).2
  -- The count says whether somebody listens, and with it what is installed and saved.
  have hrest : g.bridge.dispositions = g'.bridge.dispositions ∧
      g.bridge.saved = g'.bridge.saved := by
    rcases Nat.eq_zero_or_pos g.bridge.active with hzero | hpos
    · obtain ⟨hd, hsaved⟩ := hg.sound.idle hzero
      obtain ⟨hd', hsaved'⟩ := hg'.sound.idle (hactive ▸ hzero)
      exact ⟨hd.trans hd'.symm, hsaved.trans hsaved'.symm⟩
    · obtain ⟨hd, hsaved⟩ := hg.sound.busy hpos
      obtain ⟨hd', hsaved'⟩ := hg'.sound.busy (hactive ▸ hpos)
      exact ⟨hd.trans hd'.symm, hsaved.trans hsaved'.symm⟩
  obtain ⟨⟨slots, active, saved, dispositions⟩, counters⟩ := g
  obtain ⟨⟨slots', active', saved', dispositions'⟩, counters'⟩ := g'
  cases h
  cases hactive
  cases hslots
  obtain ⟨rfl, rfl⟩ := hrest
  rfl

/-! ## What is done to one slot -/

/-- A signal is delivered to all slots. -/
theorem deliver (hg : Tended d waiting g) (s : Signal) :
    Tended d (fun i => waiting i ++ [s]) { g with bridge := g.bridge.deliver s } where
  sound := hg.sound.deliver s
  count := hg.count
  owned i c slot hc hslot := by
    have hwake := hg.owned i c slot hc hslot
    simp [Bridge.deliver, hwake]
  owner slot wake h := by
    simp only [Bridge.deliver, List.getElem?_map, Option.map_eq_some_iff] at h
    obtain ⟨_, hwake, before, rfl, rfl⟩ := h
    exact hg.owner slot before hwake

section slot

variable {i slot : Nat} {c : Counter} (hg : Tended d waiting g)
  (hc : g.counters[i]? = some c) (hslot : c.slot = some slot)

include hg hc hslot

/-- A listener reads. -/
theorem read : Tended d (Function.update waiting i ((waiting i).drop batch))
    { g with bridge := g.bridge.read slot } where
  sound := hg.sound.read slot
  count := hg.count
  owned j c' other hc' hother := by
    have hwake := hg.owned j c' other hc' hother
    by_cases hji : j = i
    · subst hji
      cases hc.symm.trans hc'
      cases hslot.symm.trans hother
      simp [Bridge.read, hwake]
    · have hne : slot ≠ other := by
        rintro rfl
        exact hji (hg.eq_of_slot hc' hother hc hslot)
      simp [Bridge.read, hwake, hne, hji]
  owner other wake h := by
    simp only [Bridge.read, List.getElem?_modify, Option.map_eq_map, Option.map_eq_some_iff] at h
    obtain ⟨before?, hbefore, h⟩ := h
    by_cases hother : slot = other
    · rw [if_pos hother] at h
      obtain ⟨before, rfl, rfl⟩ := Option.map_eq_some_iff.mp h
      exact hg.owner other before hbefore
    · rw [if_neg hother] at h
      obtain rfl : before? = some wake := h
      exact hg.owner other wake hbefore

/-- A listener counts. -/
theorem recount {c' : Counter} (hsame : c'.slot = some slot) :
    Tended d waiting { g with counters := g.counters.set i c' } where
  sound := hg.sound
  count := by
    have hcount := countP_set_add Counter.armed hc c'
    rw [Counter.armed_of_slot hslot, Counter.armed_of_slot hsame] at hcount
    rw [hg.count]
    exact (Nat.add_right_cancel hcount).symm
  owned j k other hk hother := by
    rcases (getElem?_set_of_some hc).mp hk with ⟨rfl, rfl⟩ | ⟨-, hk⟩
    · cases hsame.symm.trans hother
      exact hg.owned j c slot hc hslot
    · exact hg.owned j k other hk hother
  owner other wake h := by
    obtain ⟨k, hk, hother⟩ := hg.owner other wake h
    by_cases hown : wake.owner = i
    · rw [hown] at hk ⊢
      cases hc.symm.trans hk
      cases hslot.symm.trans hother
      exact ⟨c', (getElem?_set_of_some hc).mpr (.inl ⟨rfl, rfl⟩), hsame⟩
    · exact ⟨k, (getElem?_set_of_some hc).mpr (.inr ⟨hown, hk⟩), hother⟩

/-- A listener gives its slot back. -/
theorem unregister {c' : Counter} (hgone : c'.slot = none) :
    Tended d waiting
      { bridge := g.bridge.unregister slot, counters := g.counters.set i c' } where
  sound := hg.sound.unregister (hg.owned i c slot hc hslot)
  count := by
    have hcount := countP_set_add Counter.armed hc c'
    have hidle : c'.armed = false := by rw [Counter.armed, hgone]; rfl
    rw [Counter.armed_of_slot hslot, hidle] at hcount
    rw [Bridge.active_unregister, hg.count]
    exact Nat.sub_eq_of_eq_add hcount.symm
  owned j k other hk hother := by
    rcases (getElem?_set_of_some hc).mp hk with ⟨-, rfl⟩ | ⟨hji, hk⟩
    · cases hgone.symm.trans hother
    · have hne : slot ≠ other := by
        rintro rfl
        exact hji (hg.eq_of_slot hk hother hc hslot)
      rw [Bridge.slots_unregister, List.getElem?_set_ne hne]
      exact hg.owned j k other hk hother
  owner other wake h := by
    rw [Bridge.slots_unregister] at h
    have hne : slot ≠ other := by
      rintro rfl
      rw [List.getElem?_set_self'] at h
      cases hwake : g.bridge.slots[slot]? <;> simp [hwake] at h
    rw [List.getElem?_set_ne hne] at h
    obtain ⟨k, hk, hother⟩ := hg.owner other wake h
    -- The listener that is gone had no other slot.
    have hown : wake.owner ≠ i := by
      intro heq
      rw [heq] at hk
      cases hc.symm.trans hk
      exact hne (Option.some.inj (hslot.symm.trans hother))
    exact ⟨k, (getElem?_set_of_some hc).mpr (.inr ⟨hown, hk⟩), hother⟩

end slot

end Tended

/-! ## Turns -/

/-- A listener reads what waits for it, at most a batch, and runs its callback. -/
def turn (g : Group) (i : Nat) : Group :=
  match g.counters[i]? with
  | none => g
  | some c =>
    let (bridge, c) := settleCounter 1 g.bridge c
    { bridge, counters := g.counters.set i c }

/-- Listeners take turns in an order. -/
def turns (g : Group) (order : List Nat) : Group :=
  order.foldl turn g

theorem turn_of_idle {i : Nat} {c : Counter} (hc : g.counters[i]? = some c)
    (h : settleCounter 1 g.bridge c = (g.bridge, c)) : g.turn i = g := by
  obtain ⟨hlt, rfl⟩ := List.getElem?_eq_some_iff.mp hc
  simp only [turn, hc, h, List.set_getElem_self]

namespace Tended

/-- A listener for whom nothing waits does nothing. -/
theorem turn_of_nothing (hg : Tended d waiting g) {i : Nat} (h : waiting i = []) :
    g.turn i = g := by
  cases hc : g.counters[i]? with
  | none => simp only [turn, hc]
  | some c =>
    refine turn_of_idle hc ?_
    cases hslot : c.slot with
    | none => simp only [settleCounter, hslot]
    | some slot => simp [settleCounter, hslot, hg.pendingAt_eq hc hslot, h]

/-- Nor does one that no longer listens. -/
theorem turn_of_not_armed {i : Nat} {c : Counter} (hc : g.counters[i]? = some c)
    (h : c.slot = none) : g.turn i = g :=
  turn_of_idle hc (by simp only [settleCounter, h])

/-- A listener for whom something waits runs its callback, and goes if that
    succeeds. -/
theorem turn_of_waiting (hg : Tended d waiting g) {i slot : Nat} {c : Counter}
    (hc : g.counters[i]? = some c) (hslot : c.slot = some slot) (h : waiting i ≠ []) :
    g.turn i =
      { bridge := if c.stopAfter ≤ c.fired + 1 then (g.bridge.read slot).unregister slot
          else g.bridge.read slot
        counters := g.counters.set i c.tick } := by
  have hsome : (g.bridge.pendingAt slot).isEmpty = false := by
    simpa [hg.pendingAt_eq hc hslot] using h
  by_cases hlast : c.stopAfter ≤ c.fired + 1
  · simp [turn, hc, settleCounter, hslot, hsome, hlast, Counter.tick]
  · simp [turn, hc, settleCounter, hslot, hsome, hlast, Counter.tick]

/-- A turn keeps the bridge and the listeners fitting. -/
theorem turn (hg : Tended d waiting g) (i : Nat) :
    Tended d (Function.update waiting i ((waiting i).drop batch)) (g.turn i) := by
  -- Where nothing is read, nothing was waiting.
  have hidle (h : ∀ c, g.counters[i]? = some c → c.armed → waiting i = []) :
      Tended d (Function.update waiting i ((waiting i).drop batch)) g := by
    refine hg.congr fun j c hc harmed => ?_
    by_cases hji : j = i
    · subst hji
      simp [h c hc harmed]
    · simp [hji]
  cases hc : g.counters[i]? with
  | none =>
    simp only [Group.turn, hc]
    exact hidle fun c hc' => by cases hc.symm.trans hc'
  | some c =>
    cases hslot : c.slot with
    | none =>
      rw [turn_of_not_armed hc hslot]
      refine hidle fun c' hc' harmed => ?_
      cases hc.symm.trans hc'
      rw [Counter.armed, hslot] at harmed
      cases harmed
    | some slot =>
      by_cases h : waiting i = []
      · rw [hg.turn_of_nothing h]
        exact hidle fun _ _ _ => h
      · rw [hg.turn_of_waiting hc hslot h]
        have hread := hg.read hc hslot
        by_cases hlast : c.stopAfter ≤ c.fired + 1
        · rw [if_pos hlast]
          exact hread.unregister hc hslot (by simp [Counter.tick, hslot, hlast])
        · rw [if_neg hlast]
          exact hread.recount hc hslot (by simp [Counter.tick, hslot, hlast])

/-- By a turn only the listener changes that takes it. -/
theorem counters_turn (hg : Tended d waiting g) (i : Nat) :
    (g.turn i).counters =
      if waiting i = [] then g.counters else g.counters.modify i Counter.tick := by
  by_cases h : waiting i = []
  · rw [hg.turn_of_nothing h, if_pos h]
  · rw [if_neg h]
    cases hc : g.counters[i]? with
    | none =>
      rw [List.modify_eq_self (List.getElem?_eq_none_iff.mp hc)]
      simp only [Group.turn, hc]
    | some c =>
      have hmodify : g.counters.modify i Counter.tick = g.counters.set i c.tick := by
        rw [List.modify_eq_set_getElem?, hc]
        rfl
      rw [hmodify]
      cases hslot : c.slot with
      | none =>
        obtain ⟨hlt, rfl⟩ := List.getElem?_eq_some_iff.mp hc
        rw [turn_of_not_armed hc hslot, Counter.tick_of_not_armed (by simp [Counter.armed, hslot]),
          List.set_getElem_self]
      | some slot => rw [hg.turn_of_waiting hc hslot h]

/-- After some turns those have read the signal who took one. -/
theorem turns {s : Signal} (hg : Tended d (fun _ => [s]) g) (order : List Nat) :
    Tended d (fun i => if i ∈ order then [] else [s]) (g.turns order) ∧
      ∀ i, (g.turns order).counters[i]? =
        g.counters[i]?.map fun c => if i ∈ order then c.tick else c := by
  induction order using List.reverseRecOn with
  | nil => exact ⟨by simpa [Group.turns] using hg, fun i => by simp [Group.turns]⟩
  | append_singleton order k ih =>
    obtain ⟨htended, hcounters⟩ := ih
    have hlast : g.turns (order ++ [k]) = (g.turns order).turn k := by
      simp [Group.turns, List.foldl_append]
    rw [hlast]
    constructor
    · -- One batch holds the one signal.
      convert htended.turn k using 1
      funext i
      by_cases hik : i = k
      · subst hik
        by_cases hi : i ∈ order <;> simp [hi, batch]
      · simp [hik]
    · intro i
      rw [htended.counters_turn k]
      by_cases hk : k ∈ order
      · -- It has read the signal already.
        have hsame : i ∈ order ++ [k] ↔ i ∈ order := by
          simp only [List.mem_append, List.mem_singleton, or_iff_left_iff_imp]
          rintro rfl
          exact hk
        simp only [hk, if_true, hcounters, hsame]
      · simp only [hk, if_false, reduceCtorEq, List.getElem?_modify, hcounters]
        by_cases hik : i = k
        · subst hik
          cases g.counters[i]? <;> simp [hk]
        · cases g.counters[i]? <;> simp [hik, Ne.symm hik]

/-- Once nothing waits any more, every listener has taken its turn. What they come
    to does not depend on the order. -/
theorem turns_of_quiet {s : Signal} (hg : Tended d (fun _ => [s]) g) {order : List Nat}
    (hquiet : (g.turns order).Quiet) :
    (g.turns order).counters = g.counters.map Counter.tick ∧
      Tended d (fun _ => []) (g.turns order) := by
  obtain ⟨htended, hcounters⟩ := hg.turns order
  -- An armed listener that has not taken a turn would still have the signal waiting.
  have hall {i : Nat} {c : Counter} (hc : g.counters[i]? = some c) (harmed : c.armed) :
      i ∈ order := by
    by_contra hi
    obtain ⟨slot, hslot⟩ := Option.isSome_iff_exists.mp harmed
    have hkept : (g.turns order).counters[i]? = some c := by
      rw [hcounters, hc, Option.map_some, if_neg hi]
    have hnone := hquiet c (List.mem_of_getElem? hkept) slot hslot
    rw [htended.pendingAt_eq hkept hslot, if_neg hi] at hnone
    cases hnone
  constructor
  · refine List.ext_getElem? fun i => ?_
    rw [hcounters, List.getElem?_map]
    cases hc : g.counters[i]? with
    | none => rfl
    | some c =>
      by_cases hi : i ∈ order
      · rw [Option.map_some, Option.map_some, if_pos hi]
      · have harmed : ¬ c.armed := fun harmed => hi (hall hc harmed)
        rw [Option.map_some, Option.map_some, if_neg hi, Counter.tick_of_not_armed harmed]
  · refine htended.congr fun i c hc harmed => ?_
    by_cases hi : i ∈ order
    · rw [if_pos hi]
    · rw [hcounters] at hc
      obtain ⟨before, hbefore, rfl⟩ := Option.map_eq_some_iff.mp hc
      rw [if_neg hi] at harmed
      exact absurd (hall hbefore harmed) hi

end Tended

/-! ## Raising a signal -/

/-- The group when a signal was raised and nobody has read it yet. -/
def told (g : Group) (s : Signal) : Group :=
  { g with bridge := g.bridge.deliver s }

/-- A listener for whom at most one signal waits is done after one turn. -/
theorem settleCounter_pending {bridge : Bridge Nat} {c : Counter}
    (h : ((c.slot.map bridge.pendingAt).getD []).length ≤ 1) :
    settleCounter ((c.slot.map bridge.pendingAt).getD []).length bridge c =
      settleCounter 1 bridge c := by
  generalize hsignals : (c.slot.map bridge.pendingAt).getD [] = signals at h
  match signals with
  | [_] => rfl
  | [] =>
    cases hslot : c.slot with
    | none => simp [settleCounter, hslot]
    | some slot =>
      have hnone : bridge.pendingAt slot = [] := by simpa [hslot] using hsignals
      simp [settleCounter, hslot, hnone]
  | _ :: _ :: _ => simp at h

/-- To let the listeners of a group settle is to let each take a turn. -/
theorem settle_eq_turns {bridge : Bridge Nat} {settled rest : List Counter}
    (hg : Tended d waiting ⟨bridge, settled ++ rest⟩) (hshort : ∀ i, (waiting i).length ≤ 1) :
    (⟨(settle bridge rest).1, settled ++ (settle bridge rest).2⟩ : Group) =
      turns ⟨bridge, settled ++ rest⟩ (List.range' settled.length rest.length) := by
  induction rest generalizing settled bridge waiting with
  | nil => simp [settle, turns]
  | cons c rest ih =>
    have hc : (settled ++ c :: rest)[settled.length]? = some c := by simp
    have hpending : ((c.slot.map bridge.pendingAt).getD []).length ≤ 1 := by
      cases hslot : c.slot with
      | none => simp
      | some slot =>
        have heq : bridge.pendingAt slot = waiting settled.length := hg.pendingAt_eq hc hslot
        simpa [heq] using hshort settled.length
    -- The first listener takes its turn, and then the rest settle.
    have hturn : turn ⟨bridge, settled ++ c :: rest⟩ settled.length =
        ⟨(settleCounter 1 bridge c).1, (settled ++ [(settleCounter 1 bridge c).2]) ++ rest⟩ := by
      simp [turn]
    have hnext := hg.turn settled.length
    rw [hturn] at hnext
    have hrest := ih hnext fun i => by
      by_cases hi : i = settled.length
      · subst hi
        simpa using Nat.le_trans (Nat.sub_le _ batch) (hshort settled.length)
      · simpa [hi] using hshort i
    have hsettle : settle bridge (c :: rest) =
        ((settle (settleCounter 1 bridge c).1 rest).1,
          (settleCounter 1 bridge c).2 :: (settle (settleCounter 1 bridge c).1 rest).2) := by
      simp only [settle, settleCounter_pending hpending]
    rw [hsettle, List.length_cons, List.range'_succ, turns, List.foldl_cons, hturn]
    simpa [turns] using hrest

/-- To raise a signal that the bridge handles is to deliver it and to let each listener
    take a turn. -/
theorem Tended.raise_eq_turns {s : Signal} (hg : Tended d (fun _ => []) g)
    (h : g.bridge.handles s) :
    g.raise s = ((g.told s).turns (List.range g.counters.length), true) := by
  have htold : Tended d (fun _ => [s]) ⟨g.bridge.deliver s, [] ++ g.counters⟩ := hg.deliver s
  have hsettle := settle_eq_turns htold fun _ => Nat.le_refl 1
  simp only [raise, h, if_true, Prod.mk.injEq, and_true]
  simpa [told, List.range_eq_range'] using hsettle

namespace Tended

/-- The bridge handles signals while anyone listens. -/
theorem handles_iff (hg : Tended d waiting g) (hd : d.Foreign) (s : Signal) :
    g.bridge.handles s = true ↔ ∃ c ∈ g.counters, c.armed := by
  rw [hg.sound.handles_iff hd, hg.count, List.countP_pos_iff]

/-- A listener for whom nothing waits keeps the group quiet. -/
theorem quiet (hg : Tended d waiting g)
    (h : ∀ i, i < g.counters.length → waiting i = []) : g.Quiet := by
  intro c hc slot hslot
  obtain ⟨i, hi, rfl⟩ := List.getElem_of_mem hc
  rw [hg.pendingAt_eq (List.getElem?_eq_getElem hi) hslot, h i hi]

/-- After a signal was raised nothing waits. -/
theorem quiet_raise (hg : Tended d (fun _ => []) g) {s : Signal} (h : g.bridge.handles s) :
    (g.raise s).1.Quiet := by
  have htold : Tended d (fun _ => [s]) (g.told s) := hg.deliver s
  obtain ⟨htended, hcounters⟩ := htold.turns (List.range g.counters.length)
  rw [hg.raise_eq_turns h]
  refine htended.quiet fun i hi => if_pos ?_
  have hthere := List.getElem?_eq_getElem hi
  rw [hcounters] at hthere
  obtain ⟨c, hc, -⟩ := Option.map_eq_some_iff.mp hthere
  exact List.mem_range.mpr (List.getElem?_eq_some_iff.mp hc).1

/-- What the order of the turns is does not matter: once nothing waits any more, the
    group is what it is after all listeners have settled. -/
theorem turns_eq_raise (hg : Tended d (fun _ => []) g) {s : Signal} (h : g.bridge.handles s)
    {order : List Nat} (hquiet : ((g.told s).turns order).Quiet) :
    (g.told s).turns order = (g.raise s).1 := by
  have htold : Tended d (fun _ => [s]) (g.told s) := hg.deliver s
  have hraise : (g.raise s).1.Quiet := hg.quiet_raise h
  rw [hg.raise_eq_turns h] at hraise ⊢
  obtain ⟨hcounters, htended⟩ := htold.turns_of_quiet hquiet
  obtain ⟨hcounters', htended'⟩ := htold.turns_of_quiet hraise
  exact htended.eq_of_counters htended' (hcounters.trans hcounters'.symm)

/-- A signal that is raised is one more for every listener. -/
theorem raise (hg : Tended d (fun _ => []) g) (hd : d.Foreign) (s : Signal) :
    (g.raise s).1.counters = g.counters.map Counter.tick ∧
      Tended d (fun _ => []) (g.raise s).1 := by
  by_cases h : g.bridge.handles s
  · have hraise : (g.raise s).1.Quiet := hg.quiet_raise h
    have htold : Tended d (fun _ => [s]) (g.told s) := hg.deliver s
    rw [hg.raise_eq_turns h] at hraise ⊢
    exact htold.turns_of_quiet hraise
  · -- Nobody listens.
    have hsame : (g.raise s).1 = g := by simp [Group.raise, h]
    have hidle : ∀ c ∈ g.counters, c.tick = c := fun c hc =>
      Counter.tick_of_not_armed fun harmed => h ((hg.handles_iff hd s).mpr ⟨c, hc, harmed⟩)
    rw [hsame]
    exact ⟨((List.map_congr_left hidle).trans (List.map_id' _)).symm, hg⟩

end Tended

end Group

end HostedFs.Signal
