import HostedFs.Data.Toml.Text
import HostedFs.Data.Tree

/-! # Writing TOML

    A string is written in the first of its forms that shows it as it is: in
    double quotes, in single quotes, and both again on several lines. Only
    where none of them can is it written with escapes.
-/

namespace HostedFs.Toml

/-! ## Strings -/

/-- The length of the longest run of a character. -/
def longestRun (c : Char) (cs : List Char) : Nat :=
  (cs.foldl (fun (current, longest) d =>
    let current := if d == c then current + 1 else 0
    (current, max longest current)) (0, 0)).2

/-- A control character that only an escape can show. -/
def needsEscape (c : Char) : Bool :=
  (c.toNat < 0x20 || c.toNat == 0x7f) && c != '\t' && c != '\n'

/-- Four hexadecimal digits in upper case. -/
def hex4 (n : Nat) : List Char :=
  let digits := (Nat.toDigits 16 n).map Char.toUpper
  List.replicate (4 - digits.length) '0' ++ digits

/-- The characters with escapes, as in double quotes. On several lines an end of
    line stands as it is, and so do two quotes in a row; `quotes` counts those
    just written. -/
def escaped (multiline : Bool) (quotes : Nat) : List Char → List Char
  | [] => []
  | c :: cs =>
    if c == '"' then
      if multiline && quotes < 2 then '"' :: escaped multiline (quotes + 1) cs
      else '\\' :: '"' :: escaped multiline 0 cs
    else if c == '\n' && multiline then '\n' :: escaped multiline 0 cs
    else
      match shortEscapeOf? c with
      | some letter => '\\' :: letter :: escaped multiline 0 cs
      | none =>
        if c.toNat < 0x20 || c.toNat == 0x7f then
          '\\' :: 'u' :: hex4 c.toNat ++ escaped multiline 0 cs
        else c :: escaped multiline 0 cs
where
  shortEscapeOf? : Char → Option Char
    | '\x08' => some 'b'
    | '\t' => some 't'
    | '\n' => some 'n'
    | '\x0c' => some 'f'
    | '\r' => some 'r'
    | '\\' => some '\\'
    | _ => none

/-- What stands after the opening quotes of a form on several lines. A text of
    several lines begins on a line of its own. -/
def opening (cs : List Char) : List Char :=
  if '\n' ∈ cs then ['\n'] else []

/-- The characters of a string with its quotes. -/
def stringChars (cs : List Char) : List Char :=
  let control := cs.any needsEscape
  let newline := '\n' ∈ cs
  let backslash := '\\' ∈ cs
  let double := longestRun '"' cs
  let single := longestRun '\'' cs
  let basic (cs : List Char) := '"' :: escaped false 0 cs ++ ['"']
  let multilineBasic (cs : List Char) :=
    "\"\"\"".toList ++ opening cs ++ escaped true 0 cs ++ "\"\"\"".toList
  if !control && !backslash && double == 0 && !newline then basic cs
  else if !control && single == 0 && !newline then '\'' :: cs ++ ['\'']
  else if !control && !backslash && double ≤ 2 then multilineBasic cs
  else if !control && single ≤ 2 then "'''".toList ++ opening cs ++ cs ++ "'''".toList
  else if newline then multilineBasic cs
  else basic cs

/-- A string as it stands in a document. -/
def stringText (s : String) : String :=
  String.ofList (stringChars s.toList)

/-- A key as it stands in a document. -/
def keyText (s : String) : String :=
  if !s.isEmpty && s.toList.all isKeyChar then s else stringText s

/-! ## Values -/

mutual

/-- The text of a value. The items of a list stand on lines of their own, but a
    single one stands between the brackets. -/
def valueText : Tree → String
  | .flag b => if b then "true" else "false"
  | .int n => toString n
  | .text s => stringText s
  | .list [] => "[]"
  | .list [item] => "[" ++ valueText item ++ "]"
  | .list (item :: items) => "[\n" ++ itemLines (item :: items) ++ "]"
  | .table entries => "\x7b" ++ ",".intercalate (pairTexts entries) ++ " \x7d"
  | .moment => "1970-01-01"
  | .other => "nan"

/-- The lines of items. -/
def itemLines : List Tree → String
  | [] => ""
  | item :: items => "    " ++ valueText item ++ ",\n" ++ itemLines items

/-- The pairs of an inline table. -/
def pairTexts : List (String × Tree) → List String
  | [] => []
  | (key, value) :: entries => (" " ++ keyText key ++ " = " ++ valueText value) :: pairTexts entries

end

/-- The lines of the pairs of a table. -/
def pairLines (entries : List (String × Tree)) : String :=
  String.join (entries.map fun (key, value) => keyText key ++ " = " ++ valueText value ++ "\n")

/-- A table of the document with its header. -/
def titled (key : String) (entries : List (String × Tree)) : String :=
  "[" ++ keyText key ++ "]\n" ++ pairLines entries

/-- The entries of a document that are tables. -/
def subtables (entries : List (String × Tree)) : List (String × List (String × Tree)) :=
  entries.filterMap fun (key, value) =>
    match value with
    | .table entries => some (key, entries)
    | _ => none

/-- The entries of a document that are no tables. -/
def plainPairs (entries : List (String × Tree)) : List (String × Tree) :=
  entries.filter fun (_, value) =>
    match value with
    | .table _ => false
    | _ => true

/-- The text of a document: the pairs of its own, then its tables, an empty line
    between any two of these parts. -/
def render (entries : List (String × Tree)) : String :=
  let own := pairLines (plainPairs entries)
  let parts := (subtables entries).map fun (key, entries) => titled key entries
  "\n".intercalate (if own.isEmpty then parts else own :: parts)

end HostedFs.Toml
