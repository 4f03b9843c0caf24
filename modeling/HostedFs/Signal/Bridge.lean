import HostedFs.Errno

/-! # The signal bridge

    While anyone listens, the two signals that end a process go to the bridge
    instead, which wakes every listener. A listener owns one of a fixed number
    of slots. The process's own dispositions are saved when the first listener
    comes and put back when the last one goes.
-/

namespace HostedFs

/-- A signal that asks a process to end. -/
inductive Signal
  | interrupt
  | terminate
  deriving DecidableEq, Repr

namespace Signal

/-- The signals in the order in which their handlers are installed. -/
def all : List Signal :=
  [.interrupt, .terminate]

/-- The name of a signal. -/
def name : Signal → String
  | .interrupt => "SIGINT"
  | .terminate => "SIGTERM"

/-- What a process does with a signal. -/
inductive Disposition
  /-- The bridge's handler runs. -/
  | bridge
  /-- Anything else, told apart by a number. -/
  | other (n : Nat)
  deriving DecidableEq, Repr

/-- The dispositions of the two signals. -/
structure Dispositions where
  interrupt : Disposition := .other 0
  terminate : Disposition := .other 1
  deriving DecidableEq, Repr

namespace Dispositions

/-- The disposition of a signal. -/
def get (d : Dispositions) : Signal → Disposition
  | .interrupt => d.interrupt
  | .terminate => d.terminate

/-- The same with another disposition for a signal. -/
def set (d : Dispositions) (s : Signal) (next : Disposition) : Dispositions :=
  match s with
  | .interrupt => { d with interrupt := next }
  | .terminate => { d with terminate := next }

/-- Puts saved dispositions back, in order. -/
def restore (d : Dispositions) (saved : List (Signal × Disposition)) : Dispositions :=
  saved.foldl (fun d (s, old) => d.set s old) d

/-- Installs the bridge for signals in order and saves what was there.
    `refusal` says for which signals the system refuses; at the first of them
    what was changed is put back. -/
def install (refusal : Signal → Option Errno) :
    List Signal → List (Signal × Disposition) → Dispositions →
      Dispositions × Except Errno (List (Signal × Disposition))
  | [], saved, d => (d, .ok saved)
  | s :: rest, saved, d =>
    match refusal s with
    | some e => (d.restore saved, .error e)
    | none => install refusal rest (saved ++ [(s, d.get s)]) (d.set s .bridge)

end Dispositions

/-- Why a listener cannot be registered. -/
inductive RegisterError
  /-- Every slot is taken. -/
  | tooMany
  /-- The system does not let a handler be installed. -/
  | refused (e : Errno)
  deriving DecidableEq, Repr

/-- The text shown for an error. -/
def RegisterError.message : RegisterError → String
  | .tooMany => "too many signal listeners"
  | .refused e => e.message

/-- What a listener's slot holds: its owner and the signals that it has not
    read yet. -/
structure Wake (ω : Type) where
  owner : ω
  pending : List Signal := []
  deriving DecidableEq, Repr

/-- The number of slots. -/
def slotCount : Nat :=
  32

/-- How many pending signals a listener reads at once. -/
def batch : Nat :=
  16

/-- The bridge of a process. -/
structure Bridge (ω : Type) where
  slots : List (Option (Wake ω)) := List.replicate slotCount none
  /-- The number of listeners. -/
  active : Nat := 0
  /-- The dispositions found when the first of the present listeners came. -/
  saved : List (Signal × Disposition) := []
  dispositions : Dispositions := {}

namespace Bridge

variable {ω : Type}

/-- The first slot that no listener owns. -/
def freeSlot? (b : Bridge ω) : Option Nat :=
  b.slots.findIdx? Option.isNone

/-- Gives a listener a slot. The first listener also installs the handlers; if
    that fails nothing is changed. -/
def register (b : Bridge ω) (owner : ω) (refusal : Signal → Option Errno) :
    Bridge ω × Except RegisterError Nat :=
  match b.freeSlot? with
  | none => (b, .error .tooMany)
  | some slot =>
    let occupy (b : Bridge ω) : Bridge ω × Except RegisterError Nat :=
      ({ b with active := b.active + 1, slots := b.slots.set slot (some ⟨owner, []⟩) }, .ok slot)
    if b.active = 0 then
      match b.dispositions.install refusal all [] with
      | (dispositions, .ok saved) => occupy { b with dispositions, saved }
      | (dispositions, .error e) => ({ b with dispositions }, .error (.refused e))
    else occupy b

/-- Takes a slot back. The last listener to go puts the dispositions back. -/
def unregister (b : Bridge ω) (slot : Nat) : Bridge ω :=
  let b := { b with slots := b.slots.set slot none, active := b.active - 1 }
  if b.active = 0 then
    { b with dispositions := b.dispositions.restore b.saved, saved := [] }
  else b

/-- The bridge's handler runs for a signal. -/
def handles (b : Bridge ω) (s : Signal) : Bool :=
  b.dispositions.get s = .bridge

/-- Wakes every listener by a signal. -/
def deliver (b : Bridge ω) (s : Signal) : Bridge ω :=
  { b with slots := b.slots.map fun wake? =>
      wake?.map fun wake => { wake with pending := wake.pending ++ [s] } }

/-- The listener in a slot, if there is one. -/
def wakeAt? (b : Bridge ω) (slot : Nat) : Option (Wake ω) :=
  (b.slots[slot]?).join

/-- The signals that wait for the listener in a slot. -/
def pendingAt (b : Bridge ω) (slot : Nat) : List Signal :=
  match b.wakeAt? slot with
  | some wake => wake.pending
  | none => []

/-- The bridge after the listener in a slot has read a batch of signals. -/
def read (b : Bridge ω) (slot : Nat) : Bridge ω :=
  { b with slots := b.slots.modify slot fun wake? =>
      wake?.map fun wake => { wake with pending := wake.pending.drop batch } }

end Bridge

end Signal

end HostedFs
