/-! # The pieces of a command line

    A scan cuts a list of arguments into pieces, from left to right:

    * an argument that does not start with a dash is a positional one;
    * one that starts with `-o` carries a comma separated list of suboptions,
      attached to it or in the argument after it;
    * any other argument that starts with a dash is an option;
    * `--` ends the scan, and what follows it is not looked at.
-/

namespace HostedFs.Options

/-- One piece of a command line. -/
inductive Piece
  | positional (arg : String)
  | option (arg : String)
  | suboption (text : String)
  deriving DecidableEq, Repr

/-- How the scan of a command line ends. -/
inductive Ending
  /-- At the last argument. -/
  | exhausted
  /-- At `--`, with the arguments after it. -/
  | separated (rest : List String)
  /-- At a final `-o`, whose list is missing. -/
  | dangling
  deriving DecidableEq, Repr

/-- The pieces of a command line and how it ends. -/
structure Scan where
  pieces : List Piece
  ending : Ending
  deriving DecidableEq, Repr

namespace Scan

/-- The same scan with pieces put before its own. -/
def after (front : List Piece) (s : Scan) : Scan :=
  ⟨front ++ s.pieces, s.ending⟩

/-- The non-empty suboptions of a comma separated list. -/
def suboptions (list : List Char) : List Piece :=
  ((list.splitOn ',').filter (· ≠ [])).map fun text => .suboption (String.ofList text)

/-- The scan of a list of arguments. -/
def ofArgs : List String → Scan
  | [] => ⟨[], .exhausted⟩
  | arg :: rest =>
    if arg = "--" then ⟨[], .separated rest⟩
    else
      match arg.toList, rest with
      | ['-', 'o'], [] => ⟨[], .dangling⟩
      | ['-', 'o'], list :: rest => (ofArgs rest).after (suboptions list.toList)
      | '-' :: 'o' :: list, rest => (ofArgs rest).after (suboptions list)
      | '-' :: _, rest => (ofArgs rest).after [.option arg]
      | _, rest => (ofArgs rest).after [.positional arg]

end Scan

/-- The text that templates are tried on, if the piece has one. -/
def Piece.candidate? : Piece → Option String
  | .positional _ => none
  | .option arg => some arg
  | .suboption text => some text

end HostedFs.Options
