import HostedFs.Options.Scan
import HostedFs.Options.Template

/-! # Reading a command line

    `fill` tries every template of a format on every candidate of a command
    line. The slots are its state, and they are written last, when nothing can
    fail any more: then each slot has the value of the last candidate that its
    template matched. The arguments that no template took are handed back:
    unmatched suboptions first, folded into one `-o` list, then the rest in
    its own order.

    An empty format keeps the arguments that are no options, and nothing else.

    * `fill`: reads a command line and writes the slots.
    * `parse`: its result with the slots that belong to it.
-/

namespace HostedFs.Options

/-- A template with the slot that it fills. -/
structure Rule where
  template : Template
  slot : Slot
  deriving DecidableEq, Repr

/-- What a piece of the command line gives to each rule. -/
structure Reading where
  piece : Piece
  /-- The new value of each slot, `none` where the template does not match. -/
  values : List (Option Slot)
  deriving DecidableEq, Repr

namespace Reading

/-- Some template took the piece. -/
def isConsumed (r : Reading) : Bool :=
  r.values.any Option.isSome

/-- The value of one rule's slot after a candidate, `none` if the template does
    not match. -/
def value (candidate : String) (rule : Rule) : Except Error (Option Slot) :=
  match rule.template.assign? rule.slot candidate with
  | none => .ok none
  | some (.ok slot) => .ok (some slot)
  | some (.error e) => .error e

/-- Tries every rule on a piece. -/
def ofPiece (rules : List Rule) (piece : Piece) : Except Error Reading :=
  match piece.candidate? with
  | none => .ok ⟨piece, []⟩
  | some candidate => (rules.mapM (value candidate)).map (⟨piece, ·⟩)

/-- The slots after a reading: those that have a new value take it. -/
def commit (slots : List Slot) (r : Reading) : List Slot :=
  slots.zipWith (fun slot value => value.getD slot) r.values ++ slots.drop r.values.length

end Reading

/-- The suboptions that no template took. -/
def leftSuboptions (readings : List Reading) : List String :=
  readings.filterMap fun r =>
    match r.piece with
    | .suboption text => if r.isConsumed then none else some text
    | _ => none

/-- The positional arguments, and unless only those are wanted also the options
    that no template took. -/
def leftArguments (positionalOnly : Bool) (readings : List Reading) : List String :=
  readings.filterMap fun r =>
    match r.piece with
    | .positional arg => some arg
    | .option arg => if r.isConsumed || positionalOnly then none else some arg
    | .suboption _ => none

/-- A list of arguments without a separator at its end. -/
def dropFinalSeparator (args : List String) : List String :=
  if args.getLast? = some "--" then args.dropLast else args

/-- A list of arguments without a separator at its front. -/
def dropLeadingSeparator (args : List String) : List String :=
  if args.head? = some "--" then args.tail else args

/-- The separator and the arguments after it. -/
def Ending.tail : Ending → List String
  | .separated rest => "--" :: rest
  | _ => []

/-- Unmatched suboptions as one `-o` list. -/
def foldSuboptions : List String → List String
  | [] => []
  | texts => ["-o", ",".intercalate texts]

/-- The arguments that no template took. -/
def leftover (positionalOnly : Bool) (readings : List Reading) (ending : Ending) : List String :=
  let kept := dropFinalSeparator (leftArguments positionalOnly readings ++ ending.tail)
  if positionalOnly then dropLeadingSeparator kept
  else foldSuboptions (leftSuboptions readings) ++ kept

/-- What the rules make of a scanned command line. An `-o` without a list is
    noticed only after all that stands before it. -/
def readScan (rules : List Rule) (scan : Scan) : Except Error (List Reading) := do
  let readings ← scan.pieces.mapM (Reading.ofPiece rules)
  if scan.ending = .dangling then
    throw (.missingValue "-o")
  return readings

/-- Reading may fail, and the slots are then as they are at that moment. -/
abbrev Filling :=
  ExceptT Error (StateM (List Slot))

/-- Reads a command line by the templates of a format, each of which fills the
    slot at its own position. What no template took is the result. -/
def fill (format : String) (args : List String) : Filling (List String) := do
  let slots ← get
  let templates ← Template.parseFormat format
  if templates.length ≠ slots.length then
    throw (.arity templates.length slots.length)
  let rules := templates.zipWith Rule.mk slots
  let scan := Scan.ofArgs args
  let readings ← readScan rules scan
  -- Nothing fails from here on.
  readings.forM fun reading => modify (Reading.commit · reading)
  return leftover rules.isEmpty readings scan.ending

/-- The outcome of a command line: what no template took, and the slots. -/
structure Parsed where
  rest : List String
  slots : List Slot
  deriving DecidableEq, Repr

/-- What `fill` makes of slots, if it does not fail. -/
def parse (format : String) (slots : List Slot) (args : List String) : Except Error Parsed :=
  match (fill format args).run.run slots with
  | (.ok rest, slots) => .ok ⟨rest, slots⟩
  | (.error e, _) => .error e

end HostedFs.Options
