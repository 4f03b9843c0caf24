import HostedFs.Data.Toml.Build
import HostedFs.Data.Toml.Number
import HostedFs.Data.Toml.Text

/-! # Reading TOML

    `Toml.parse?` reads the tree of a document. Lists and inline tables nest
    less than eighty deep, and a key has less than eighty parts.
-/

namespace HostedFs.Toml

/-- The greatest number of values in one another, and of parts of a key. -/
def depthLimit : Nat :=
  79

/-- A key as the parts before its last one and that one. -/
def splitKey? (parts : List String) : Option (List String × String) :=
  parts.getLast?.map (parts.dropLast, ·)

mutual

/-- A value at the front, with at most `depth` lists and tables in one another.
    The measure bounds the number of parts that are read. -/
def value? (depth : Nat) : Nat → List Char → Option (Tree × List Char)
  | 0, _ => none
  | n + 1, cs =>
    match cs with
    | '"' :: _ => (string? cs).map fun (text, rest) => (.text text, rest)
    | '\'' :: _ => (string? cs).map fun (text, rest) => (.text text, rest)
    | 't' :: 'r' :: 'u' :: 'e' :: rest => some (.flag true, rest)
    | 'f' :: 'a' :: 'l' :: 's' :: 'e' :: rest => some (.flag false, rest)
    | '[' :: rest =>
      if depth = 0 then none
      else (items? (depth - 1) n rest).map fun (items, rest) => (.list items, rest)
    | '\x7b' :: rest =>
      if depth = 0 then none
      else
        match skipBlanks rest with
        | '\x7d' :: rest => some (.table [], rest)
        | rest => do
          let (pairs, rest) ← pairs? (depth - 1) n rest
          return (← build? pairs, rest)
    | _ => number? cs

/-- The items of a list up to its closing bracket. A comma may follow the last
    one. -/
def items? (depth : Nat) : Nat → List Char → Option (List Tree × List Char)
  | 0, _ => none
  | n + 1, cs =>
    match skipTrivia false cs with
    | ']' :: rest => some ([], rest)
    | cs => do
      let (item, rest) ← value? depth n cs
      match skipTrivia false rest with
      | ',' :: rest =>
        let (items, rest) ← items? depth n rest
        return (item :: items, rest)
      | ']' :: rest => return ([item], rest)
      | _ => none

/-- One or more pairs of an inline table up to its closing brace, all on one
    line. -/
def pairs? (depth : Nat) : Nat → List Char → Option (List Statement × List Char)
  | 0, _ => none
  | n + 1, cs => do
    let (parts, rest) ← key? depthLimit cs
    let (path, key) ← splitKey? parts
    let '=' :: rest := rest | none
    let (value, rest) ← value? depth n (skipBlanks rest)
    match skipBlanks rest with
    | ',' :: rest =>
      let (pairs, rest) ← pairs? depth n rest
      return (.pair path key value :: pairs, rest)
    | '\x7d' :: rest => return ([.pair path key value], rest)
    | _ => none

end

/-- A statement at the front of a line, and what follows that line. -/
def statement? (cs : List Char) : Option (Statement × List Char) := do
  match cs with
  | '[' :: '[' :: rest =>
    let (parts, rest) ← key? depthLimit rest
    let (path, key) ← splitKey? parts
    let ']' :: ']' :: rest := rest | none
    return (.itemHeader path key, ← lineEnd? rest)
  | '[' :: rest =>
    let (parts, rest) ← key? depthLimit rest
    let (path, key) ← splitKey? parts
    let ']' :: rest := rest | none
    return (.header path key, ← lineEnd? rest)
  | _ =>
    let (parts, rest) ← key? depthLimit cs
    let (path, key) ← splitKey? parts
    let '=' :: rest := rest | none
    let rest := skipBlanks rest
    let (value, rest) ← value? depthLimit (rest.length + 1) rest
    return (.pair path key value, ← lineEnd? rest)

/-- The statements of a text. The measure bounds their number. -/
def statements? : Nat → List Char → Option (List Statement)
  | 0, _ => none
  | n + 1, cs =>
    match skipTrivia false cs with
    | [] => some []
    | cs => do
      let (statement, rest) ← statement? cs
      return statement :: (← statements? n rest)

/-- The text after a mark of its byte order. -/
def afterMark : List Char → List Char
  | '\ufeff' :: rest => rest
  | cs => cs

/-- The tree of a document. Each statement takes at least one character, so the
    length bounds their number. -/
def parse? (text : String) : Option Tree := do
  build? (← statements? (text.length + 1) (afterMark text.toList))

end HostedFs.Toml
