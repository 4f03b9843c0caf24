import HostedFs.Event
import HostedFs.Host.Error

/-! # Finding the native library

    The library is looked for once. A candidate that opens decides, even if it
    turns out to be no use; what came of it is kept for good.

    * `tryOpen`: one attempt to open a candidate;
    * `find`: looks through the candidates;
    * `Cell`: what is known of the library so far;
    * `Cell.load`: the answer of the first look, now and later.
-/

namespace HostedFs.Native

/-- What is installed when the library is looked for. -/
structure Installation where
  /-- The path that the environment names. One that is no text counts for nothing. -/
  preferred : Option String
  /-- The symbols of a candidate, if it opens. -/
  symbols : String → Option (List String)

/-- The entry points that the library must have. -/
def requiredSymbols : List String :=
  ["fuse_main_real", "fuse_get_context", "fuse_exit"]

/-- The libraries to try, in order. -/
def candidates (i : Installation) : List String :=
  i.preferred.toList ++ ["libfuse.so.2", "libfuse.so"]

/-- The library that is in use. -/
structure Library where
  name : String
  deriving DecidableEq, Repr

/-- Takes an open library into use, if it has what is needed. -/
def bind (name : String) (symbols : List String) : Except HostError Library :=
  match requiredSymbols.find? fun symbol => symbol ∉ symbols with
  | none => .ok ⟨name⟩
  | some missing => .error (.missingSymbol name missing)

/-- Why a candidate does not open. -/
def notThere (name : String) : String :=
  name ++ ": cannot open shared object file: No such file or directory"

/-! ## Looking through candidates -/

/-- What is done besides answering: the candidates that were to be opened and
    what was reported, in order. -/
structure Doings where
  opened : List String := []
  events : List Event := []

/-- Tries to open a candidate. If it opens its symbols are there. -/
def tryOpen (i : Installation) (name : String) : StateM Doings (Option (List String)) := do
  modify fun d => { d with opened := d.opened ++ [name] }
  return i.symbols name

/-- Reports an event. -/
def report (e : Event) : StateM Doings Unit :=
  modify fun d => { d with events := d.events ++ [e] }

/-- Tries what is left of all candidates in order. The first that opens is taken
    into use, or found to be no use. -/
def lookThrough (i : Installation) (all : List String) :
    List String → StateM Doings (Except HostError Library)
  | [] => do
    report (.libraryMissing all)
    return .error (.libraryNotFound all)
  | name :: others => do
    match ← tryOpen i name with
    | some symbols =>
      report (.libraryLoaded name)
      return bind name symbols
    | none =>
      report (.candidateRejected name (notThere name))
      lookThrough i all others

/-- Looks for the library. -/
def find (i : Installation) : Except HostError Library × Doings :=
  (lookThrough i (candidates i) (candidates i)).run {}

/-! ## The one look -/

/-- What is known of the library: nothing before the first look. -/
structure Cell where
  found : Option (Except HostError Library) := none

namespace Cell

/-- The library, looked for if nothing is known of it. -/
def load (i : Installation) (c : Cell) : Except HostError Library × Cell × Doings :=
  match c.found with
  | some known => (known, c, {})
  | none =>
    let (result, doings) := find i
    (result, ⟨some result⟩, doings)

/-- The library, if it is in use already. -/
def loaded (c : Cell) : Option Library :=
  match c.found with
  | some (.ok library) => some library
  | _ => none

/-! ## The library as the native side of a host -/

/-- Prepares for a mount. -/
def prepare (i : Installation) (c : Cell) : Option HostError × Cell × Doings :=
  match c.load i with
  | (.ok _, c, doings) => (none, c, doings)
  | (.error e, c, doings) => (some e, c, doings)

/-- The status of an event loop that no library runs. -/
def cannotRun : Int32 :=
  -1

/-- Runs the event loop of the library. -/
def run (i : Installation) (main : Library → Int32) (c : Cell) : Int32 × Cell × Doings :=
  match c.load i with
  | (.ok library, c, doings) => (main library, c, doings)
  | (.error _, c, doings) => (cannotRun, c, doings)

/-- Unmounts by the library, if it is in use. -/
def unmount (primitive : Library → Bool) (c : Cell) : Bool :=
  match c.loaded with
  | some library => primitive library
  | none => false

/-- The library has no way to pass on that a path has changed. -/
def notify (_ : Cell) : Bool :=
  false

end Cell

end HostedFs.Native
