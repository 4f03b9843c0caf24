import HostedFs.Word

/-! # Trees of data

    What a document says, whatever its format: flags, integers, texts, lists
    and tables. A record is read from a tree, either from a table by the names
    of its fields or from a list by their positions.
-/

namespace HostedFs

/-- A value of a document. -/
inductive Tree
  | flag (value : Bool)
  | int (value : Int)
  | text (value : String)
  | list (items : List Tree)
  | table (entries : List (String × Tree))
  /-- A date, a time or both. -/
  | moment
  /-- A well-formed value that no field of a record can hold. -/
  | other
  deriving Repr, Inhabited

namespace Tree

/-! ## Reading single values -/

/-- A flag. -/
def flag? : Tree → Option Bool
  | .flag b => some b
  | _ => none

/-- A text. -/
def text? : Tree → Option String
  | .text s => some s
  | _ => none

/-- The items of a list. -/
def items? : Tree → Option (List Tree)
  | .list items => some items
  | _ => none

/-- The value that a table gives to a name first. -/
def at? (tree : Tree) (name : String) : Option Tree :=
  match tree with
  | .table entries => entries.lookup name
  | _ => none

/-- A list of texts. -/
def texts? : Tree → Option (List String)
  | .list items => items.mapM text?
  | _ => none

/-- An integer of a word type. One outside the type's limits is not read. -/
def word? {α : Type} [Word α] : Tree → Option α
  | .int n => if (Word.kind α).Contains n then some (Word.ofInt n) else none
  | _ => none

/-- The integer that a word stands for. -/
def ofWord {α : Type} [Word α] (a : α) : Tree :=
  .int (Word.toInt a)

/-- A value, or nothing. -/
def orNothing {α : Type} (tree : α → Tree) : Option α → Tree
  | none => .other
  | some a => tree a

/-! ## Reading records -/

/-- How strictly a format reads records. -/
structure Strictness where
  /-- A list may have more items than the record has fields. -/
  surplusItems : Bool
  deriving DecidableEq, Repr

/-- The values that entries give to a name. -/
def lookupAll (entries : List (String × Tree)) (name : String) : List Tree :=
  entries.filterMap fun (key, value) => if key = name then some value else none

/-- The value of a field in a table: `some none` when it is missing, `none`
    when it is given twice. -/
def valueAt? (entries : List (String × Tree)) (name : String) : Option (Option Tree) :=
  match lookupAll entries name with
  | [] => some none
  | [value] => some (some value)
  | _ => none

/-- The values that a tree gives to the fields of a record, in the order of
    their names, `none` for a missing one. A table gives them by name, and its
    other entries do not count; a list gives them by position. A moment has
    none of the fields. -/
def fields? (strictness : Strictness) (names : List String) : Tree → Option (List (Option Tree))
  | .table entries => names.mapM (valueAt? entries)
  | .list items =>
    if items.length ≤ names.length || strictness.surplusItems then
      some (names.zipIdx.map fun (_, i) => items[i]?)
    else none
  | .moment => some (names.map fun _ => none)
  | _ => none

end Tree

end HostedFs
