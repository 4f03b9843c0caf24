import HostedFs.Pattern.Class
import HostedFs.Text.Letter

/-! # Patterns

    A pattern has alternatives, an alternative has pieces, and a piece may be a
    group that has alternatives again. What patterns match does not matter here.

    * `check`: whether a text is a pattern that can be matched, or what is wrong
      with it.

    Where a repetition is written by its counts, which takes braces, the text is
    no pattern.
-/

namespace HostedFs.Pattern

/-- How deep a pattern may nest. -/
def deepest : Nat :=
  250

/-- What is wrong with a text as a pattern. -/
inductive Fault
  /-- It is no pattern, nests too deep or has a part that is not known. -/
  | malformed
  /-- It is a pattern, but asks where words of any characters start or end, which
      is found out for words of ASCII characters only. -/
  | wordEdge
  deriving DecidableEq, Repr

/-- The text shown for what is wrong. -/
def Fault.message : Fault → String
  | .malformed => "error building NFA"
  | .wordEdge =>
    "unsupported regex feature for DFAs: cannot build DFAs for regexes with Unicode word " ++
      "boundaries; switch to ASCII word boundaries, or heuristically enable Unicode word " ++
      "boundaries or use a different regex engine"

/-- What was read of a group that is open. -/
structure OpenGroup where
  /-- The flags that hold again after it. -/
  flags : Flags := {}
  /-- How deep the alternatives before the present one nest. -/
  branches : List Nat := []
  /-- How deep the pieces of the present alternative nest, the last one first. A
      change of flags is a piece that cannot be repeated. -/
  pieces : List (Option Nat) := []
  deriving DecidableEq, Repr

namespace OpenGroup

/-- The group with one piece more. -/
def add (g : OpenGroup) (piece : Option Nat) : OpenGroup :=
  { g with pieces := piece :: g.pieces }

/-- The group with its present alternative at an end. -/
def branch (g : OpenGroup) : OpenGroup :=
  { g with branches := nesting (g.pieces.map (·.getD 0)) :: g.branches, pieces := [] }

/-- The group with its last piece repeated, if it can be. -/
def repeatLast? (g : OpenGroup) : Option OpenGroup :=
  match g.pieces with
  | some depth :: pieces => some { g with pieces := some (depth + 1) :: pieces }
  | _ => none

/-- How deep what was read nests. -/
def depth (g : OpenGroup) : Nat :=
  nesting g.branch.branches

end OpenGroup

/-- What was read of a pattern. -/
structure Reading where
  flags : Flags := {}
  /-- The names of groups. -/
  names : List String := []
  /-- A piece asked where words of any characters start or end. -/
  asksForWords : Bool := false
  /-- The innermost open group; the pattern itself counts as one. -/
  inner : OpenGroup := {}
  /-- The open groups around it, from the inside out. -/
  outer : List OpenGroup := []
  deriving DecidableEq, Repr

namespace Reading

/-- One piece more. -/
def add (r : Reading) (piece : Option Nat) : Reading :=
  { r with inner := r.inner.add piece }

/-! ## Groups -/

/-- A group begins, in which some flags hold. -/
def enter (r : Reading) (flags : Flags) : Reading :=
  { r with flags, inner := { flags := r.flags }, outer := r.inner :: r.outer }

/-- The innermost group ends. -/
def leave? (r : Reading) : Option Reading :=
  match r.outer with
  | [] => none
  | parent :: outer =>
    some { r with flags := r.inner.flags, inner := parent.add (some (r.inner.depth + 1)), outer }

/-- The characters with which the name of a group begins. -/
def startsName (c : Char) : Bool :=
  c == '_' || Text.isAlphabetic c

/-- The characters with which the name of a group goes on. -/
def continuesName (c : Char) : Bool :=
  "_.[]".toList.contains c || Text.isAlphanumeric c

/-- A group with a name of its own begins, given what follows its angle. -/
def enterNamed? (r : Reading) (cs : List Char) : Option (Reading × List Char) :=
  match cs.takeWhile (· != '>'), cs.dropWhile (· != '>') with
  | c :: name, _ :: rest =>
    let whole := String.ofList (c :: name)
    if startsName c && name.all continuesName && !r.names.contains whole then
      some ({ r.enter r.flags with names := whole :: r.names }, rest)
    else none
  | _, _ => none

/-- A group begins, or flags change in the innermost one, given what follows the
    bracket. -/
def enter? (r : Reading) : List Char → Option (Reading × List Char)
  | '?' :: 'P' :: '<' :: cs => r.enterNamed? cs
  | '?' :: '<' :: cs => r.enterNamed? cs
  | '?' :: cs =>
    match letters? cs with
    | some (letters, ':' :: rest) => some (r.enter (r.flags.after letters), rest)
    | some (letters, ')' :: rest) =>
      if letters.isEmpty then none
      else some ({ r with flags := r.flags.after letters }.add none, rest)
    | _ => none
  | cs => some (r.enter r.flags, cs)

/-! ## Pieces -/

/-- Reads on after a character that counts. The measure bounds the items of a
    class. -/
def step? (r : Reading) (n : Nat) (c : Char) (cs : List Char) : Option (Reading × List Char) :=
  match c with
  | '(' => r.enter? (r.flags.skip cs)
  | ')' => r.leave?.map (·, cs)
  | '|' => some ({ r with inner := r.inner.branch }, cs)
  | '?' | '*' | '+' => do
    let inner ← r.inner.repeatLast?
    return ({ r with inner }, if cs.head? == some '?' then cs.tail else cs)
  | '\x7b' => none
  | '[' => do
    let (depth, rest) ← Class.close? r.flags n {} [] (← Class.opened? r.flags cs)
    return (r.add (some depth), rest)
  | '.' => if r.flags.unicode then some (r.add (some 0), cs) else none
  | '^' | '$' => some (r.add (some 0), cs)
  | '\\' => do
    let (escape, rest) ← Escape.read? r.flags cs
    guard (escape.isAllowed r.flags)
    let asksForWords := r.asksForWords || escape.asksForWords r.flags
    return ({ r with asksForWords }.add (some 0), rest)
  | c => if r.flags.allows ⟨c, false⟩ then some (r.add (some 0), cs) else none

/-- The whole pattern as it was read, given what is left of it. The measure
    bounds the pieces. -/
def finish? : Nat → Reading → List Char → Option Reading
  | 0, _, _ => none
  | n + 1, r, cs =>
    match r.flags.skip cs with
    | [] => if r.outer.isEmpty then some r else none
    | c :: cs =>
      match r.step? n c cs with
      | some (r, rest) => finish? n r rest
      | none => none

end Reading

/-- The text is a pattern that can be matched. Each piece takes at least one
    character. That a text is malformed counts before all else. -/
def check (cs : List Char) : Except Fault Unit :=
  match Reading.finish? (cs.length + 1) {} cs with
  | none => .error .malformed
  | some r =>
    if deepest < r.inner.depth then .error .malformed
    else if r.asksForWords then .error .wordEdge
    else .ok ()

end HostedFs.Pattern
