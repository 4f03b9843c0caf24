import HostedFs.Errno
import HostedFs.Path

/-! # Directories and files

    A disk is a tree of directories and files, as far as it is known. Paths
    are followed from its root or from the present directory, one part after
    the other, and each part asks for a directory to start from.

    * `Disk.follow`: where the parts of a path lead to;
    * `Disk.find`: the same for a path that the system is given whole;
    * `Disk.canonical?`: the shortest path to the same place;
    * `Disk.makeDirectories`, `Disk.openForAppending`: what a path brings about.
-/

namespace HostedFs

/-- What is at a place. -/
inductive Node
  | directory
  | file (content : List UInt8)
  deriving DecidableEq, Repr

/-- The names that lead from the root to a place. -/
abbrev Place :=
  List String

/-- The places that are known, the root apart, and the present directory. -/
structure Disk where
  here : Place := []
  nodes : List (Place × Node) := []

namespace Disk

/-! ## Limits -/

/-- The most bytes that a name has. -/
def longestName : Nat :=
  255

/-- The most bytes that a path has when it is passed to the system whole. A path
    that is followed part by part may be longer. -/
def longestPath : Nat :=
  4095

/-- The text is a path. -/
def checkText (path : String) : Except Errno Unit :=
  if path.toList.contains '\x00' then .error .invalid
  else if path.isEmpty then .error .noEntry
  else .ok ()

/-- The path can be passed to the system whole. -/
def checkWhole (path : String) : Except Errno Unit := do
  checkText path
  if longestPath < path.utf8ByteSize then throw .nameTooLong

/-! ## Looking -/

/-- What is at a place, if it is known. -/
def node? (d : Disk) (p : Place) : Option Node :=
  if p = [] then some .directory else d.nodes.lookup p

/-- A place is a directory. -/
def asDirectory (d : Disk) (p : Place) : Except Errno Unit :=
  match d.node? p with
  | some .directory => .ok ()
  | some (.file _) => .error .notDirectory
  | none => .error .noEntry

/-- The place of a name in a directory, whether or not something is there. -/
def child (d : Disk) (p : Place) (name : String) : Except Errno Place := do
  d.asDirectory p
  if name = "" ∨ name = "." then return p
  else if name = ".." then return p.dropLast
  else if longestName < name.utf8ByteSize then throw .nameTooLong
  else return p ++ [name]

/-- One part of a path. -/
def step (d : Disk) (p : Place) (name : String) : Except Errno Place := do
  let next ← d.child p name
  if (d.node? next).isSome then return next else throw .noEntry

/-- The place where a path starts. -/
def start (d : Disk) (path : String) : Place :=
  if Path.isAbsolute path then [] else d.here

/-- The place that the parts of a path lead to, one after the other. Idle parts
    and parts that lead back do not add up: what counts is each place on the way. -/
def follow (d : Disk) (path : String) : Except Errno Place := do
  checkText path
  (path.splitOn "/").foldlM d.step (d.start path)

/-- The place that a path leads to when it is passed to the system whole. -/
def find (d : Disk) (path : String) : Except Errno Place := do
  checkWhole path
  d.follow path

/-- The content of the file that a path leads to. -/
def read (d : Disk) (path : String) : Except Errno (List UInt8) := do
  match d.node? (← d.find path) with
  | some (.file content) => return content
  | some .directory => throw .isDirectory
  | none => throw .noEntry

/-- The same without the reason why there is none. -/
def content? (d : Disk) (path : String) : Option (List UInt8) :=
  (d.read path).toOption

/-- The shortest absolute path to the place that a path leads to. The path is
    followed part by part, so that its own length does not matter. -/
def canonical? (d : Disk) (path : String) : Option String :=
  (d.follow path).toOption.map fun place => "/" ++ "/".intercalate place

/-- The names in a directory with what they stand for, in order. -/
def listing (d : Disk) (p : Place) : List (String × Node) :=
  let children := d.nodes.filterMap fun (place, node) =>
    if place ≠ [] ∧ place.dropLast = p then place.getLast?.map (·, node) else none
  children.mergeSort fun a b => a.1 ≤ b.1

/-! ## Changing -/

/-- The disk with something at a place. -/
def put (d : Disk) (p : Place) (node : Node) : Disk :=
  { d with nodes := d.nodes.filter (·.1 ≠ p) ++ [(p, node)] }

/-- Adds bytes to the file at a place, if there is one. -/
def append (d : Disk) (p : Place) (bytes : List UInt8) : Disk :=
  match d.node? p with
  | some (.file content) => d.put p (.file (content ++ bytes))
  | _ => d

/-- Makes the directories along some parts of a path, from a place on. What was
    made before a failure stays. -/
def makeAlong (d : Disk) (p : Place) : List String → Except Errno Unit × Disk
  | [] => (d.asDirectory p, d)
  | name :: names =>
    match d.child p name with
    | .error e => (.error e, d)
    | .ok next =>
      match d.node? next with
      | some _ => makeAlong d next names
      | none => makeAlong (d.put next .directory) next names

/-- Makes the directory of a path and those on the way to it. -/
def makeDirectories (d : Disk) (path : String) : Except Errno Unit × Disk :=
  if path.toList.contains '\x00' then (.error .invalid, d)
  else if longestPath < path.utf8ByteSize then (.error .nameTooLong, d)
  else d.makeAlong (d.start path) (Path.parts path)

/-- Opens the file of a path to add to it, which makes it if it is not there. -/
def openForAppending (d : Disk) (path : String) : Except Errno Place × Disk :=
  let names := Path.parts path
  let found : Except Errno Place := do
    checkWhole path
    let directory ← names.dropLast.foldlM d.step (d.start path)
    d.child directory (names.getLast?.getD "")
  match found with
  | .error e => (.error e, d)
  | .ok place =>
    match d.node? place with
    | some .directory => (.error .isDirectory, d)
    | some (.file _) => (.ok place, d)
    | none => (.ok place, d.put place (.file []))

end Disk

end HostedFs
