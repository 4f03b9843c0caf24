import HostedFs.Signal.Bridge

/-! # Listeners whose callbacks count

    Each listener of a group counts how often its callback ran, and the
    callback succeeds from a given run on. A listener whose callback succeeded
    stops listening. Every step runs until nothing is left to be done: after a
    signal was raised, each listener has read it.
-/

namespace HostedFs.Signal

/-- A listener of a group. -/
structure Counter where
  /-- The run from which on the callback succeeds. -/
  stopAfter : Nat
  /-- How often the callback ran. -/
  fired : Nat := 0
  /-- The slot that the listener owns while it listens. -/
  slot : Option Nat
  deriving DecidableEq, Repr

/-- The listeners armed so far, in order, and the bridge they share. -/
structure Group where
  bridge : Bridge Nat := {}
  counters : List Counter := []

namespace Group

/-- Arms a listener. It is not among the counters if it finds no slot. -/
def arm (g : Group) (stopAfter : Nat) : Group × Except RegisterError Unit :=
  match g.bridge.register g.counters.length (fun _ => none) with
  | (bridge, .ok slot) =>
    ({ bridge, counters := g.counters ++ [⟨stopAfter, 0, some slot⟩] }, .ok ())
  | (_, .error e) => (g, .error e)

/-- One listener reads its signals, a batch at a time, each batch for one run of
    its callback. The measure bounds the number of batches. -/
def settleCounter : Nat → Bridge Nat → Counter → Bridge Nat × Counter
  | 0, bridge, c => (bridge, c)
  | n + 1, bridge, c =>
    match c.slot with
    | none => (bridge, c)
    | some slot =>
      if (bridge.pendingAt slot).isEmpty then (bridge, c)
      else
        let bridge := bridge.read slot
        let fired := c.fired + 1
        if c.stopAfter ≤ fired then (bridge.unregister slot, { c with fired, slot := none })
        else settleCounter n bridge { c with fired }

/-- Every listener reads its signals. -/
def settle (bridge : Bridge Nat) : List Counter → Bridge Nat × List Counter
  | [] => (bridge, [])
  | c :: rest =>
    let signals := (c.slot.map bridge.pendingAt).getD []
    let (bridge, c) := settleCounter signals.length bridge c
    let (bridge, rest) := settle bridge rest
    (bridge, c :: rest)

/-- Raises a signal, if the bridge handles it; the flag says so. -/
def raise (g : Group) (s : Signal) : Group × Bool :=
  if g.bridge.handles s then
    let (bridge, counters) := settle (g.bridge.deliver s) g.counters
    ({ bridge, counters }, true)
  else (g, false)

/-- Stops a listener. The flag says that it still listened. -/
def finish (g : Group) (i : Nat) : Group × Bool :=
  match g.counters[i]? with
  | some ⟨stopAfter, fired, some slot⟩ =>
    ({ bridge := g.bridge.unregister slot
       counters := g.counters.set i ⟨stopAfter, fired, none⟩ }, true)
  | _ => (g, false)

end Group

end HostedFs.Signal
