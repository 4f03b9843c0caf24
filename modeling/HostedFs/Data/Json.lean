import HostedFs.Data.Tree
import HostedFs.Options.Numeral

/-! # JSON texts

    * `Json.parse?`: the tree of a JSON text;
    * `Json.render`: the compact text of a tree.

    An integer is a number without fraction and exponent. A string whose
    escapes leave half of a surrogate pair is well formed but has no text, and
    neither has an object with such a key an entry that could be read.
-/

namespace HostedFs.Json

/-! ## Lexical parts -/

/-- The white space of the format. -/
def isSpace (c : Char) : Bool :=
  c == ' ' || c == '\t' || c == '\n' || c == '\r'

/-- The text after its leading white space. -/
def skipSpace (cs : List Char) : List Char :=
  cs.dropWhile isSpace

/-- The number of four hexadecimal digits. -/
def hex4? (a b c d : Char) : Option Nat :=
  Options.Numeral.magnitude? 16 [a, b, c, d]

/-- A code unit of UTF-16 that opens a surrogate pair. -/
def isHighSurrogate (n : Nat) : Bool :=
  0xD800 ≤ n && n < 0xDC00

/-- A code unit of UTF-16 that closes a surrogate pair. -/
def isLowSurrogate (n : Nat) : Bool :=
  0xDC00 ≤ n && n < 0xE000

/-- The text of UTF-16 code units, if their surrogates pair up. -/
def ofUnits? : List Nat → Option (List Char)
  | [] => some []
  | high :: low :: units =>
    if isHighSurrogate high then
      if isLowSurrogate low then
        (ofUnits? units).map (Char.ofNat (0x10000 + (high - 0xD800) * 0x400 + (low - 0xDC00)) :: ·)
      else none
    else if isLowSurrogate high then none
    else (ofUnits? (low :: units)).map (Char.ofNat high :: ·)
  | [unit] => if isHighSurrogate unit || isLowSurrogate unit then none else some [Char.ofNat unit]

/-- The UTF-16 code units of a character. -/
def unitsOf (c : Char) : List Nat :=
  if c.toNat < 0x10000 then [c.toNat]
  else [0xD800 + (c.toNat - 0x10000) / 0x400, 0xDC00 + (c.toNat - 0x10000) % 0x400]

/-- The code unit of a one-letter escape. -/
def shortEscape? : Char → Option Nat
  | '"' => some 0x22
  | '\\' => some 0x5C
  | '/' => some 0x2F
  | 'b' => some 0x8
  | 'f' => some 0xC
  | 'n' => some 0xA
  | 'r' => some 0xD
  | 't' => some 0x9
  | _ => none

/-- The code units of a string up to its closing quote, and what follows. -/
def stringBody? : List Char → Option (List Nat × List Char)
  | [] => none
  | '"' :: rest => some ([], rest)
  | '\\' :: 'u' :: a :: b :: c :: d :: rest => do
    let unit ← hex4? a b c d
    let (units, rest) ← stringBody? rest
    return (unit :: units, rest)
  | '\\' :: c :: rest => do
    let unit ← shortEscape? c
    let (units, rest) ← stringBody? rest
    return (unit :: units, rest)
  | c :: rest =>
    if c.toNat < 0x20 || c == '\\' then none
    else do
      let (units, rest) ← stringBody? rest
      return (unitsOf c ++ units, rest)

/-- The digits at the front, and what follows. -/
def takeDigits (cs : List Char) : List Char × List Char :=
  (cs.takeWhile Char.isDigit, cs.dropWhile Char.isDigit)

/-- The integer part of a number: a zero alone, or digits that start with
    another one. -/
def integerPart? (cs : List Char) : Option (Nat × List Char) :=
  match takeDigits cs with
  | ([], _) => none
  | ('0' :: _ :: _, _) => none
  | (digits, rest) => (Options.Numeral.magnitude? 10 digits).map (·, rest)

/-- What follows an optional fraction; the flag says that there is one. -/
def afterFraction? : List Char → Option (Bool × List Char)
  | '.' :: cs =>
    match takeDigits cs with
    | ([], _) => none
    | (_, rest) => some (true, rest)
  | cs => some (false, cs)

/-- What follows an optional sign of an exponent. -/
def afterSign : List Char → List Char
  | '+' :: cs => cs
  | '-' :: cs => cs
  | cs => cs

/-- What follows an optional exponent; the flag says that there is one. -/
def afterExponent? : List Char → Option (Bool × List Char)
  | c :: cs =>
    if c == 'e' || c == 'E' then
      match takeDigits (afterSign cs) with
      | ([], _) => none
      | (_, rest) => some (true, rest)
    else some (false, c :: cs)
  | [] => some (false, [])

/-- A number at the front. Only an integer that has no sign before a zero can
    be held by a field. -/
def number? (cs : List Char) : Option (Tree × List Char) := do
  let (negative, unsigned) :=
    match cs with
    | '-' :: cs => (true, cs)
    | cs => (false, cs)
  let (n, rest) ← integerPart? unsigned
  let (fraction, rest) ← afterFraction? rest
  let (exponent, rest) ← afterExponent? rest
  if fraction || exponent || (negative && n == 0) then return (.other, rest)
  return (.int (if negative then -(n : Int) else n), rest)

/-! ## Values -/

/-- An object's tree, if all its keys have texts. -/
def ofMembers (members : List (Option String × Tree)) : Tree :=
  match members.mapM fun (key?, value) => key?.map (·, value) with
  | some entries => .table entries
  | none => .other

mutual

/-- A value at the front, after white space, of at most that many nested
    parts. -/
def value? : Nat → List Char → Option (Tree × List Char)
  | 0, _ => none
  | n + 1, cs =>
    match skipSpace cs with
    | 'n' :: 'u' :: 'l' :: 'l' :: rest => some (.other, rest)
    | 't' :: 'r' :: 'u' :: 'e' :: rest => some (.flag true, rest)
    | 'f' :: 'a' :: 'l' :: 's' :: 'e' :: rest => some (.flag false, rest)
    | '"' :: rest =>
      (stringBody? rest).map fun (units, rest) =>
        match ofUnits? units with
        | some text => (.text (String.ofList text), rest)
        | none => (.other, rest)
    | '[' :: rest =>
      match skipSpace rest with
      | ']' :: rest => some (.list [], rest)
      | rest => (items? n rest).map fun (items, rest) => (.list items, rest)
    | '\x7b' :: rest =>
      match skipSpace rest with
      | '\x7d' :: rest => some (.table [], rest)
      | rest => (members? n rest).map fun (members, rest) => (ofMembers members, rest)
    | rest => number? rest

/-- One or more values between commas, up to the closing bracket. -/
def items? : Nat → List Char → Option (List Tree × List Char)
  | 0, _ => none
  | n + 1, cs => do
    let (item, rest) ← value? n cs
    match skipSpace rest with
    | ',' :: rest =>
      let (items, rest) ← items? n rest
      return (item :: items, rest)
    | ']' :: rest => return ([item], rest)
    | _ => none

/-- One or more members between commas, up to the closing brace. A key is
    `none` when it has no text. -/
def members? : Nat → List Char → Option (List (Option String × Tree) × List Char)
  | 0, _ => none
  | n + 1, cs => do
    let (key, rest) ←
      match skipSpace cs with
      | '"' :: rest => stringBody? rest
      | _ => none
    match skipSpace rest with
    | ':' :: rest =>
      let (value, rest) ← value? n rest
      let member := ((ofUnits? key).map String.ofList, value)
      match skipSpace rest with
      | ',' :: rest =>
        let (members, rest) ← members? n rest
        return (member :: members, rest)
      | '\x7d' :: rest => return ([member], rest)
      | _ => none
    | _ => none

end

/-- The tree of a text that holds one value and nothing else. Each nested part
    takes at least one character, so the length bounds their number. -/
def parse? (text : String) : Option Tree :=
  match value? (text.length + 1) text.toList with
  | some (tree, rest) => if skipSpace rest = [] then some tree else none
  | none => none

/-! ## Compact texts -/

/-- The letter behind the backslash, for the characters that are written with
    a one-letter escape. -/
def shortLetter? : Char → Option Char
  | '"' => some '"'
  | '\\' => some '\\'
  | '\x08' => some 'b'
  | '\x0c' => some 'f'
  | '\n' => some 'n'
  | '\r' => some 'r'
  | '\t' => some 't'
  | _ => none

/-- One character as it stands in a string. -/
def escapeChar (c : Char) : String :=
  match shortLetter? c with
  | some letter => String.ofList ['\\', letter]
  | none =>
    if c.toNat < 0x20 then
      "\\u" ++ (if c.toNat < 0x10 then "000" else "00") ++ String.ofList (Nat.toDigits 16 c.toNat)
    else c.toString

/-- A string between quotes. -/
def quote (s : String) : String :=
  "\"" ++ String.join (s.toList.map escapeChar) ++ "\""

mutual

/-- The text of a tree without any white space. -/
def render : Tree → String
  | .flag b => if b then "true" else "false"
  | .int n => toString n
  | .text s => quote s
  | .list items => "[" ++ ",".intercalate (renderItems items) ++ "]"
  | .table entries => "\x7b" ++ ",".intercalate (renderEntries entries) ++ "\x7d"
  | .moment => "null"
  | .other => "null"

/-- The texts of the items of a list. -/
def renderItems : List Tree → List String
  | [] => []
  | item :: items => render item :: renderItems items

/-- The texts of the entries of a table. -/
def renderEntries : List (String × Tree) → List String
  | [] => []
  | (key, value) :: entries => (quote key ++ ":" ++ render value) :: renderEntries entries

end

end HostedFs.Json
