import HostedFs.Registry.Basic

/-! # The registry under concurrent use

    Any number of calls use one registry at once. To register an object is to
    allocate a block, whose address becomes the token, and then to enter it
    into the table; to release it is to remove it from the table and then to
    free its block. Each of the four is one step, and steps of different calls
    may fall between the two of one call.

    The allocator gives any address that is not null and not in use.
-/

namespace HostedFs.Registry

/-- How far a call has come. -/
inductive Progress (α : Type)
  /-- It has a block and is about to enter the object. -/
  | allocated (token : Token) (object : α)
  /-- It registered an object. -/
  | registered (token : Token)
  /-- It took an object out and is about to free the block. -/
  | removed (token : Token) (object : α)
  /-- It released an object, or there was none. -/
  | released (object : Option α)
  /-- It looked a token up. -/
  | found (object : Option α)

/-- The table, the blocks in use and the calls made so far. -/
structure Shared (α : Type) where
  table : Registry α := {}
  /-- The addresses of the allocated blocks. -/
  blocks : List Token := []
  calls : Nat → Option (Progress α) := fun _ => none
  /-- The number of objects entered so far. -/
  entered : Nat := 0
  /-- The number of objects removed so far. -/
  removals : Nat := 0

/-- A step of the call with a number. -/
inductive Step (α : Type)
  /-- A new call allocates a block for an object. -/
  | allocate (call : Nat) (object : α) (token : Token)
  /-- It enters the object. -/
  | enter (call : Nat)
  /-- A new call looks a token up. -/
  | look (call : Nat) (token : Token)
  /-- A new call removes a token from the table. -/
  | remove (call : Nat) (token : Token)
  /-- It frees the block. -/
  | free (call : Nat)

namespace Shared

variable {α : Type}

/-- The same with one call come further. -/
def put (s : Shared α) (call : Nat) (p : Progress α) : Shared α :=
  { s with calls := fun n => if n = call then some p else s.calls n }

/-- The state after a step, if the step is possible. -/
def step (s : Shared α) : Step α → Option (Shared α)
  | .allocate call object token =>
    match s.calls call with
    | none =>
      if token ∈ s.blocks then none
      else some ({ s with blocks := token :: s.blocks }.put call (.allocated token object))
    | some _ => none
  | .enter call =>
    match s.calls call with
    | some (.allocated token object) =>
      some ({ s with table := s.table.insert token object, entered := s.entered + 1 }.put call
        (.registered token))
    | _ => none
  | .look call token =>
    match s.calls call with
    | none => some (s.put call (.found (s.table.lookup token)))
    | some _ => none
  | .remove call token =>
    match s.calls call with
    | none =>
      match s.table.lookup token with
      | some object =>
        some ({ s with table := s.table.erase token, removals := s.removals + 1 }.put call
          (.removed token object))
      | none => some (s.put call (.released none))
    | some _ => none
  | .free call =>
    match s.calls call with
    | some (.removed token object) =>
      some ({ s with blocks := s.blocks.erase token }.put call (.released (some object)))
    | _ => none

/-- The state after a sequence of steps, if each is possible in its turn. -/
def run (s : Shared α) (steps : List (Step α)) : Option (Shared α) :=
  steps.foldlM step s

end Shared

end HostedFs.Registry
