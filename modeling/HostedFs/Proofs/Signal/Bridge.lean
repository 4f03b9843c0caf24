import HostedFs.Signal.Bridge
import Mathlib.Data.List.Basic

/-! # What each operation does to the bridge

    The bridge counts its occupied slots, and its handlers are installed while
    there are any. What the process did with the signals before is saved
    meanwhile, and is in place again when the last listener has gone.

    * `install_all`: both handlers are installed, or nothing is changed.
    * `register_cases`: the ways in which a registration can go.
    * `Bridge.Sound`: what holds of a bridge between the operations.
-/

namespace HostedFs.Signal

namespace Dispositions

/-! ## Installing and restoring -/

/-- What the process does with each signal, as it is saved. -/
def save (d : Dispositions) : List (Signal × Disposition) :=
  all.map fun s => (s, d.get s)

/-- Nobody but the bridge has its handler. -/
def Foreign (d : Dispositions) : Prop :=
  ∀ s, d.get s ≠ .bridge

instance (d : Dispositions) : Decidable d.Foreign :=
  decidable_of_iff (d.interrupt ≠ .bridge ∧ d.terminate ≠ .bridge)
    ⟨fun h s => by cases s; exacts [h.1, h.2], fun h => ⟨h .interrupt, h .terminate⟩⟩

@[simp] theorem get_bridged (s : Signal) :
    (⟨.bridge, .bridge⟩ : Dispositions).get s = .bridge := by
  cases s <;> rfl

/-- What was saved is in place again, whatever was there meanwhile. -/
@[simp] theorem restore_save (d e : Dispositions) : e.restore d.save = d :=
  rfl

/-- A signal whose disposition was changed and put back is as it was. -/
theorem restore_set (d : Dispositions) (s : Signal) (next : Disposition) :
    (d.set s next).restore [(s, d.get s)] = d := by
  cases s <;> rfl

/-- Both handlers are installed and what was there is saved; or the system
    refuses one of them, and nothing is changed. -/
theorem install_all (refusal : Signal → Option Errno) (d : Dispositions) :
    d.install refusal all [] =
      match all.findSome? refusal with
      | some e => (d, .error e)
      | none => (⟨.bridge, .bridge⟩, .ok d.save) := by
  cases hint : refusal .interrupt with
  | some e => simp [install, all, hint, restore]
  | none =>
    cases hterm : refusal .terminate with
    | some e =>
      -- The handler of the first signal was installed already and is put back.
      have hback := restore_set d .interrupt .bridge
      simp [install, all, hint, hterm, hback]
    | none => simp [install, all, hint, hterm, save, get, set]

/-- The system refuses none of the handlers. -/
theorem findSome?_all_eq_none {refusal : Signal → Option Errno} :
    all.findSome? refusal = none ↔ ∀ s, refusal s = none := by
  rw [List.findSome?_eq_none_iff]
  constructor
  · intro h s
    exact h s (by cases s <;> decide)
  · intro h s _
    exact h s

end Dispositions

namespace Bridge

variable {ω : Type}

/-! ## Slots -/

/-- A slot that no listener owns is one of the slots, and empty. -/
theorem freeSlot?_eq_some {b : Bridge ω} {slot : Nat} (h : b.freeSlot? = some slot) :
    slot < b.slots.length ∧ b.slots[slot]? = some none := by
  obtain ⟨hlt, hnone, -⟩ := List.findIdx?_eq_some_iff_getElem.mp h
  exact ⟨hlt, by rw [List.getElem?_eq_getElem hlt, Option.isNone_iff_eq_none.mp hnone]⟩

/-- Without a free slot every slot is occupied. -/
theorem occupied_of_freeSlot?_eq_none {b : Bridge ω} (h : b.freeSlot? = none) :
    b.slots.countP Option.isSome = b.slots.length := by
  rw [List.countP_eq_length]
  intro wake? hwake
  have hnot := List.findIdx?_eq_none_iff.mp h wake? hwake
  simpa using hnot

/-- The slots that are occupied are as many as before and one more. -/
theorem countP_set_some {slots : List (Option (Wake ω))} {slot : Nat}
    (h : slots[slot]? = some none) (wake : Wake ω) :
    (slots.set slot (some wake)).countP Option.isSome = slots.countP Option.isSome + 1 := by
  obtain ⟨hlt, hnone⟩ := List.getElem?_eq_some_iff.mp h
  rw [List.countP_set hlt, hnone]
  simp

/-- The slots that are occupied are as many as before and one less. -/
theorem countP_set_none {slots : List (Option (Wake ω))} {slot : Nat} {wake : Wake ω}
    (h : slots[slot]? = some (some wake)) :
    (slots.set slot none).countP Option.isSome + 1 = slots.countP Option.isSome := by
  obtain ⟨hlt, hsome⟩ := List.getElem?_eq_some_iff.mp h
  have hpos : 0 < slots.countP Option.isSome := by
    rw [List.countP_pos_iff]
    exact ⟨_, List.mem_of_getElem? h, rfl⟩
  rw [List.countP_set hlt, hsome]
  simp
  omega

theorem wakeAt?_eq_some {b : Bridge ω} {slot : Nat} {wake : Wake ω} :
    b.wakeAt? slot = some wake ↔ b.slots[slot]? = some (some wake) :=
  Option.join_eq_some_iff

/-- Who owns a slot. -/
def ownerAt? (b : Bridge ω) (slot : Nat) : Option ω :=
  (b.wakeAt? slot).map Wake.owner

theorem ownerAt?_eq_some {b : Bridge ω} {slot : Nat} {owner : ω} :
    b.ownerAt? slot = some owner ↔
      ∃ wake, b.slots[slot]? = some (some wake) ∧ wake.owner = owner := by
  simp [ownerAt?, wakeAt?_eq_some]

/-- Only the owner of the slot that is set changes. -/
theorem ownerAt?_of_set {b b' : Bridge ω} {slot : Nat} {wake? : Option (Wake ω)}
    (h : b'.slots = b.slots.set slot wake?) (hlt : slot < b.slots.length) (other : Nat) :
    b'.ownerAt? other = if other = slot then wake?.map Wake.owner else b.ownerAt? other := by
  by_cases hother : other = slot
  · subst hother
    simp [ownerAt?, wakeAt?, h, List.getElem?_set_self hlt]
  · simp [ownerAt?, wakeAt?, h, List.getElem?_set_ne (Ne.symm hother), hother]

/-- To deliver a signal changes no owner. -/
@[simp] theorem ownerAt?_deliver (b : Bridge ω) (s : Signal) (slot : Nat) :
    (b.deliver s).ownerAt? slot = b.ownerAt? slot := by
  simp only [ownerAt?, wakeAt?, deliver, List.getElem?_map]
  cases h : b.slots[slot]? with
  | none => rfl
  | some wake? => cases wake? <;> rfl

/-- To read signals changes no owner. -/
@[simp] theorem ownerAt?_read (b : Bridge ω) (reader slot : Nat) :
    (b.read reader).ownerAt? slot = b.ownerAt? slot := by
  simp only [ownerAt?, wakeAt?, read, List.getElem?_modify]
  by_cases hslot : reader = slot
  · cases h : b.slots[slot]? with
    | none => simp
    | some wake? => cases wake? <;> simp [hslot]
  · simp [hslot]

/-! ## Registering -/

/-- The ways in which a registration can go: there is no slot; the first listener
    comes and the system refuses a handler; the first listener comes and the
    handlers are installed; or one more listener comes. -/
theorem register_cases (b : Bridge ω) (owner : ω) (refusal : Signal → Option Errno) :
    (b.freeSlot? = none ∧ b.register owner refusal = (b, .error .tooMany)) ∨
    (∃ slot e, b.freeSlot? = some slot ∧ b.active = 0 ∧ all.findSome? refusal = some e ∧
      b.register owner refusal = (b, .error (.refused e))) ∨
    (∃ slot, b.freeSlot? = some slot ∧ b.active = 0 ∧ all.findSome? refusal = none ∧
      b.register owner refusal =
        ({ b with
            active := 1
            slots := b.slots.set slot (some ⟨owner, []⟩)
            dispositions := ⟨.bridge, .bridge⟩
            saved := b.dispositions.save }, .ok slot)) ∨
    (∃ slot, b.freeSlot? = some slot ∧ 0 < b.active ∧
      b.register owner refusal =
        ({ b with
            active := b.active + 1
            slots := b.slots.set slot (some ⟨owner, []⟩) }, .ok slot)) := by
  cases hfree : b.freeSlot? with
  | none => exact .inl ⟨rfl, by simp [register, hfree]⟩
  | some slot =>
    refine .inr ?_
    by_cases hactive : b.active = 0
    · cases hrefusal : all.findSome? refusal with
      | some e =>
        refine .inl ⟨slot, e, rfl, hactive, rfl, ?_⟩
        -- The first listener has the handlers installed, and one of them is refused.
        simp only [register, hfree, Dispositions.install_all, hrefusal]
        rw [if_pos hactive]
      | none =>
        refine .inr (.inl ⟨slot, rfl, hactive, rfl, ?_⟩)
        simp [register, hfree, hactive, Dispositions.install_all, hrefusal]
    · refine .inr (.inr ⟨slot, rfl, Nat.pos_of_ne_zero hactive, ?_⟩)
      simp [register, hfree, hactive]

/-- A registration that is made takes a free slot and is counted. If it is the
    first, both handlers are installed and what was there is saved. -/
theorem register_accepted {b bridge : Bridge ω} {owner : ω} {refusal : Signal → Option Errno}
    {slot : Nat} (done : b.register owner refusal = (bridge, .ok slot)) :
    b.freeSlot? = some slot ∧ bridge.slots = b.slots.set slot (some ⟨owner, []⟩) ∧
      bridge.active = b.active + 1 ∧
      (b.active = 0 ∧ all.findSome? refusal = none ∧ bridge.saved = b.dispositions.save ∨
        0 < b.active ∧ bridge.saved = b.saved) := by
  rcases b.register_cases owner refusal with ⟨-, heq⟩ | ⟨_, _, -, -, -, heq⟩ |
    ⟨_, hfree, hzero, hnone, heq⟩ | ⟨_, hfree, hpos, heq⟩
  · cases done.symm.trans heq
  · cases done.symm.trans heq
  · cases done.symm.trans heq
    exact ⟨hfree, rfl, by rw [hzero], .inl ⟨hzero, hnone, rfl⟩⟩
  · cases done.symm.trans heq
    exact ⟨hfree, rfl, rfl, .inr ⟨hpos, rfl⟩⟩

/-- A registration that is refused changes nothing of the bridge. -/
theorem register_refused {b bridge : Bridge ω} {owner : ω} {refusal : Signal → Option Errno}
    {e : RegisterError} (done : b.register owner refusal = (bridge, .error e)) :
    bridge = b ∧ ((e = .tooMany ∧ b.freeSlot? = none) ∨
      ∃ cause, e = .refused cause ∧ b.active = 0 ∧ all.findSome? refusal = some cause) := by
  rcases b.register_cases owner refusal with ⟨hfull, heq⟩ | ⟨_, cause, -, hzero, hcause, heq⟩ |
    ⟨_, -, -, -, heq⟩ | ⟨_, -, -, heq⟩
  · cases done.symm.trans heq
    exact ⟨rfl, .inl ⟨rfl, hfull⟩⟩
  · cases done.symm.trans heq
    exact ⟨rfl, .inr ⟨cause, rfl, hzero, hcause⟩⟩
  · cases done.symm.trans heq
  · cases done.symm.trans heq

/-! ## Giving a slot back -/

theorem slots_unregister (b : Bridge ω) (slot : Nat) :
    (b.unregister slot).slots = b.slots.set slot none := by
  simp only [unregister]
  split <;> rfl

theorem active_unregister (b : Bridge ω) (slot : Nat) :
    (b.unregister slot).active = b.active - 1 := by
  simp only [unregister]
  split <;> rfl

/-- While others listen, nothing that was saved is touched. -/
theorem saved_unregister {b : Bridge ω} {slot : Nat} (h : 0 < (b.unregister slot).active) :
    (b.unregister slot).saved = b.saved := by
  rw [active_unregister] at h
  simp only [unregister]
  rw [if_neg (Nat.ne_of_gt h)]

/-! ## Between the operations -/

/-- A bridge between the operations on it, where the process does as told by the
    dispositions while nobody listens. -/
structure Sound (d : Dispositions) (b : Bridge ω) : Prop where
  length : b.slots.length = slotCount
  active : b.active = b.slots.countP Option.isSome
  idle : b.active = 0 → b.dispositions = d ∧ b.saved = []
  busy : 0 < b.active → b.dispositions = ⟨.bridge, .bridge⟩ ∧ b.saved = d.save

theorem sound_start (d : Dispositions) : Sound d ({ dispositions := d } : Bridge ω) where
  length := rfl
  active := rfl
  idle _ := ⟨rfl, rfl⟩
  busy h := absurd h (Nat.lt_irrefl 0)

namespace Sound

variable {d : Dispositions} {b : Bridge ω}

theorem active_le (hb : Sound d b) : b.active ≤ slotCount := by
  rw [hb.active, ← hb.length]
  exact List.countP_le_length

/-- The bridge's handler runs for a signal while somebody listens. -/
theorem handles_iff (hb : Sound d b) (hd : d.Foreign) (s : Signal) :
    b.handles s = true ↔ 0 < b.active := by
  constructor
  · intro hhandles
    by_contra hidle
    obtain ⟨hown, -⟩ := hb.idle (Nat.eq_zero_of_not_pos hidle)
    have hbridge : b.dispositions.get s = .bridge := of_decide_eq_true hhandles
    rw [hown] at hbridge
    exact hd s hbridge
  · intro hpos
    obtain ⟨hbridged, -⟩ := hb.busy hpos
    exact decide_eq_true (by rw [hbridged, Dispositions.get_bridged])

/-- There is no free slot when all are counted. -/
theorem active_eq_of_full (hb : Sound d b) (h : b.freeSlot? = none) : b.active = slotCount := by
  rw [hb.active, occupied_of_freeSlot?_eq_none h, hb.length]

/-- A registration keeps the bridge sound. -/
theorem register (hb : Sound d b) (owner : ω) (refusal : Signal → Option Errno) :
    Sound d (b.register owner refusal).1 := by
  rcases b.register_cases owner refusal with ⟨-, heq⟩ | ⟨slot, e, -, -, -, heq⟩ |
    ⟨slot, hfree, hzero, -, heq⟩ | ⟨slot, hfree, hpos, heq⟩
  · rw [heq]
    exact hb
  · rw [heq]
    exact hb
  · obtain ⟨-, hslot⟩ := freeSlot?_eq_some hfree
    obtain ⟨hd, -⟩ := hb.idle hzero
    rw [heq]
    refine ⟨by simp [hb.length], ?_, fun h => absurd h (Nat.one_ne_zero), fun _ => ⟨rfl, ?_⟩⟩
    · -- The slot was free, so one more is taken.
      have hcount := countP_set_some hslot ⟨owner, []⟩
      have hbefore := hb.active
      simp only [hcount]
      omega
    · rw [hd]
  · obtain ⟨-, hslot⟩ := freeSlot?_eq_some hfree
    rw [heq]
    refine ⟨by simp [hb.length], ?_, fun h => absurd h (Nat.succ_ne_zero _), fun _ => hb.busy hpos⟩
    have hcount := countP_set_some hslot ⟨owner, []⟩
    simp only [hcount, hb.active]

/-- So does a listener that gives its slot back. -/
theorem unregister (hb : Sound d b) {slot : Nat} {wake : Wake ω}
    (h : b.slots[slot]? = some (some wake)) : Sound d (b.unregister slot) := by
  have hcount := countP_set_none h
  have hpos : 0 < b.active := by
    rw [hb.active]
    omega
  obtain ⟨hbridged, hsaved⟩ := hb.busy hpos
  -- One slot less is taken, and one listener less is counted.
  have hactive : b.active - 1 = (b.slots.set slot none).countP Option.isSome := by
    rw [hb.active]
    omega
  by_cases hlast : b.active - 1 = 0
  · have heq : b.unregister slot =
        { b with
          slots := b.slots.set slot none
          active := b.active - 1
          dispositions := d
          saved := [] } := by
      simp [Bridge.unregister, hlast, hsaved]
    rw [heq]
    exact ⟨by simp [hb.length], hactive, fun _ => ⟨rfl, rfl⟩,
      fun h => absurd hlast (Nat.ne_of_gt h)⟩
  · have heq : b.unregister slot =
        { b with slots := b.slots.set slot none, active := b.active - 1 } := by
      simp [Bridge.unregister, hlast]
    rw [heq]
    exact ⟨by simp [hb.length], hactive, fun h => absurd h hlast, fun _ => ⟨hbridged, hsaved⟩⟩

theorem deliver (hb : Sound d b) (s : Signal) : Sound d (b.deliver s) where
  length := by simp [Bridge.deliver, hb.length]
  active := by
    show b.active = (b.slots.map _).countP Option.isSome
    rw [hb.active, List.countP_map]
    apply List.countP_congr
    intro wake? _
    cases wake? <;> rfl
  idle := hb.idle
  busy := hb.busy

theorem read (hb : Sound d b) (slot : Nat) : Sound d (b.read slot) where
  length := by simp [Bridge.read, hb.length]
  active := by
    show b.active = (b.slots.modify slot _).countP Option.isSome
    rw [hb.active]
    -- Reading leaves an occupied slot occupied.
    have hsame : (b.slots.modify slot fun wake? =>
        wake?.map fun wake => { wake with pending := wake.pending.drop batch }).map Option.isSome =
          b.slots.map Option.isSome := by
      apply List.ext_getElem?
      intro i
      simp only [List.getElem?_map, List.getElem?_modify]
      cases b.slots[i]? with
      | none => rfl
      | some wake? => by_cases hi : slot = i <;> simp [hi]
    have hcount := congrArg (List.countP id) hsame
    rw [List.countP_map, List.countP_map] at hcount
    exact hcount.symm
  idle := hb.idle
  busy := hb.busy

end Sound

end Bridge

end HostedFs.Signal
