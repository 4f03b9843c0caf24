import HostedFs.Data.Tree

/-! # Putting a TOML document together

    A document is a sequence of statements: a key gets a value, or a header
    opens the table that the following keys belong to. No statement may define
    what another one has defined.

    * `Node`: the parts of a document that is being put together;
    * `update?`: a change of the table that a path leads to;
    * `build?`: the tree that statements come to.
-/

namespace HostedFs.Toml

/-- A statement of a document. -/
inductive Statement
  /-- A key, the parts before its last one, and a value. -/
  | pair (path : List String) (key : String) (value : Tree)
  /-- The header of a table. -/
  | header (path : List String) (key : String)
  /-- The header of a new table in a list of tables. -/
  | itemHeader (path : List String) (key : String)

/-- How a table came to be. -/
structure TableOrigin where
  /-- Only keys and headers below it have named it. -/
  implied : Bool
  /-- The parts of a key have named it. -/
  dotted : Bool
  deriving DecidableEq, Repr

/-- A part of a document. -/
inductive Node
  /-- What a key was given; nothing can be added to it. -/
  | value (tree : Tree)
  | table (origin : TableOrigin) (entries : List (String × Node))
  /-- A list of tables, each with a header of its own. -/
  | tables (items : List (List (String × Node)))

/-- The entries of a table. -/
abbrev Entries :=
  List (String × Node)

namespace Entries

/-- The entries with another node under a key that is there. -/
def replace (entries : Entries) (key : String) (node : Node) : Entries :=
  entries.map fun (k, old) => (k, if k = key then node else old)

/-- The entries without a key. -/
def remove (entries : Entries) (key : String) : Entries :=
  entries.filter fun (k, _) => k != key

end Entries

/-- Changes the table that a path leads to, and implies the tables on the way.
    `dotted` says that the path is part of a key: it must not go into a table
    that has a header. A path goes into the last table of a list. -/
def update? {α : Type} (dotted : Bool) (change : Bool → Entries → Option (α × Entries)) :
    List String → Bool → Entries → Option (α × Entries)
  | [], isDotted, entries => change isDotted entries
  | key :: path, _, entries =>
    match entries.lookup key with
    | none => do
      let (a, children) ← update? dotted change path dotted []
      return (a, entries ++ [(key, .table ⟨true, dotted⟩ children)])
    | some (.value _) => none
    | some (.tables items) => do
      let (a, children) ← update? dotted change path false (← items.getLast?)
      return (a, entries.replace key (.tables (items.dropLast ++ [children])))
    | some (.table origin children) =>
      if dotted && !origin.implied then none
      else do
        let (a, children) ← update? dotted change path origin.dotted children
        return (a, entries.replace key (.table origin children))

/-- A document that is being put together: its tables but for the one that is
    open, and that one with its place. -/
structure Draft where
  root : Entries := []
  /-- The header of the open table; the document itself needs none. The flag
      says that the table is one of a list. -/
  place : Option (List String × String × Bool) := none
  current : Entries := []

namespace Draft

/-- Gives a key of the open table a value. A key of one part belongs to the
    table itself, and one of several to a table that only such keys have
    named. -/
def assign? (d : Draft) (path : List String) (key : String) (value : Tree) : Option Draft := do
  let change (isDotted : Bool) (entries : Entries) : Option (Unit × Entries) :=
    if isDotted == path.isEmpty || (entries.lookup key).isSome then none
    else some ((), entries ++ [(key, .value value)])
  let ((), current) ← update? true change path false d.current
  return { d with current }

/-- Puts the open table in its place. -/
def close? (d : Draft) : Option Entries :=
  match d.place with
  | none => some d.current
  | some (path, key, isItem) => do
    let change (_ : Bool) (entries : Entries) : Option (Unit × Entries) :=
      if isItem then
        match entries.lookup key with
        | some (.tables items) => some ((), entries.replace key (.tables (items ++ [d.current])))
        | _ => none
      else some ((), entries ++ [(key, .table ⟨false, false⟩ d.current)])
    let ((), root) ← update? false change path false d.root
    return root

/-- Opens a table. One that was only implied by headers keeps its entries. -/
def openTable? (d : Draft) (path : List String) (key : String) : Option Draft := do
  let change (_ : Bool) (entries : Entries) : Option (Entries × Entries) :=
    match entries.lookup key with
    | none => some ([], entries)
    | some (.table ⟨true, false⟩ children) => some (children, entries.remove key)
    | some _ => none
  let (current, root) ← update? false change path false (← d.close?)
  return { root, place := some (path, key, false), current }

/-- Opens a new table of a list. -/
def openItem? (d : Draft) (path : List String) (key : String) : Option Draft := do
  let change (_ : Bool) (entries : Entries) : Option (Unit × Entries) :=
    match entries.lookup key with
    | none => some ((), entries ++ [(key, .tables [])])
    | some (.tables _) => some ((), entries)
    | some _ => none
  let ((), root) ← update? false change path false (← d.close?)
  return { root, place := some (path, key, true), current := [] }

/-- The document after a statement. -/
def add? (d : Draft) : Statement → Option Draft
  | .pair path key value => d.assign? path key value
  | .header path key => d.openTable? path key
  | .itemHeader path key => d.openItem? path key

end Draft

mutual

/-- The tree of a node. -/
def Node.toTree : Node → Tree
  | .value tree => tree
  | .table _ entries => .table (entryTrees entries)
  | .tables items => .list (itemTrees items)

/-- The trees of entries. -/
def entryTrees : List (String × Node) → List (String × Tree)
  | [] => []
  | (key, node) :: entries => (key, node.toTree) :: entryTrees entries

/-- The trees of the tables of a list. -/
def itemTrees : List (List (String × Node)) → List Tree
  | [] => []
  | entries :: items => .table (entryTrees entries) :: itemTrees items

end

/-- The tree that statements come to, unless one of them contradicts another. -/
def build? (statements : List Statement) : Option Tree := do
  let draft ← statements.foldlM Draft.add? {}
  return .table (entryTrees (← draft.close?))

end HostedFs.Toml
