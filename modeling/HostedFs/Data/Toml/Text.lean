import HostedFs.Options.Numeral

/-! # Lexical parts of TOML

    Blanks, ends of lines, comments, strings and keys. Each function reads at
    the front of the characters and returns what follows.

    A line ends with a line feed, which a carriage return may precede; no other
    control character but the tab stands anywhere in a document.
-/

namespace HostedFs.Toml

/-! ## Blanks and comments -/

/-- A space or a tab. -/
def isBlank (c : Char) : Bool :=
  c == ' ' || c == '\t'

/-- The text after its leading blanks. -/
def skipBlanks (cs : List Char) : List Char :=
  cs.dropWhile isBlank

/-- A character that may stand in a comment, and in a string unless it has a
    meaning there. -/
def isTextChar (c : Char) : Bool :=
  c == '\t' || (' ' ≤ c && c != '\x7f')

/-- What follows the end of a line, or the end of the text. -/
def newline? : List Char → Option (List Char)
  | [] => some []
  | '\n' :: rest => some rest
  | '\r' :: '\n' :: rest => some rest
  | _ => none

/-- What follows the rest of a line that has only blanks and a comment. -/
def lineEnd? (cs : List Char) : Option (List Char) :=
  match skipBlanks cs with
  | '#' :: rest => newline? (rest.dropWhile isTextChar)
  | rest => newline? rest

/-- The text after its leading blanks, comments and ends of lines. The flag
    says that the text begins within a comment. -/
def skipTrivia (comment : Bool) : List Char → List Char
  | [] => []
  | '\n' :: rest => skipTrivia false rest
  | '\r' :: '\n' :: rest => skipTrivia false rest
  | c :: rest =>
    if comment then if isTextChar c then skipTrivia true rest else c :: rest
    else if isBlank c then skipTrivia false rest
    else if c == '#' then skipTrivia true rest
    else c :: rest

/-! ## Strings on one line -/

/-- The character of a one-letter escape. -/
def shortEscape? : Char → Option Char
  | 'b' => some '\x08'
  | 't' => some '\t'
  | 'n' => some '\n'
  | 'f' => some '\x0c'
  | 'r' => some '\r'
  | '"' => some '"'
  | '\\' => some '\\'
  | _ => none

/-- The character whose code point hexadecimal digits spell. -/
def codePoint? (digits : List Char) : Option Char := do
  let n ← Options.Numeral.magnitude? 16 digits
  if n.isValidChar then return Char.ofNat n else none

/-- Puts a character before a text that was read. -/
def before (c : Char) (read : Option (List Char × List Char)) : Option (List Char × List Char) :=
  read.map fun (text, rest) => (c :: text, rest)

/-- A basic string up to its closing quote. -/
def basicBody? : List Char → Option (List Char × List Char)
  | [] => none
  | '"' :: rest => some ([], rest)
  | '\\' :: 'u' :: a :: b :: c :: d :: rest => do
    before (← codePoint? [a, b, c, d]) (basicBody? rest)
  | '\\' :: 'U' :: a :: b :: c :: d :: e :: f :: g :: h :: rest => do
    before (← codePoint? [a, b, c, d, e, f, g, h]) (basicBody? rest)
  | '\\' :: c :: rest => do
    before (← shortEscape? c) (basicBody? rest)
  | c :: rest => if c != '\\' && isTextChar c then before c (basicBody? rest) else none

/-- A literal string up to its closing quote. -/
def literalBody? : List Char → Option (List Char × List Char)
  | [] => none
  | '\'' :: rest => some ([], rest)
  | c :: rest => if isTextChar c then before c (literalBody? rest) else none

/-! ## Strings on several lines -/

/-- What follows an end of line that directly follows the opening quotes. -/
def afterFirstNewline : List Char → List Char
  | '\n' :: rest => rest
  | '\r' :: '\n' :: rest => rest
  | cs => cs

/-- Only blanks are left on the line. -/
def onlyBlanksLeft (cs : List Char) : Bool :=
  match skipBlanks cs with
  | '\n' :: _ => true
  | '\r' :: '\n' :: _ => true
  | _ => false

/-- A basic string on several lines up to its closing quotes, one or two quotes
    before which belong to the text. The flag says that blanks and ends of lines
    are left out up to the next other character, as after a backslash at the end
    of a line. -/
def multilineBasicBody? (trim : Bool) : List Char → Option (List Char × List Char)
  | [] => none
  | '"' :: '"' :: '"' :: '"' :: '"' :: rest => some (['"', '"'], rest)
  | '"' :: '"' :: '"' :: '"' :: rest => some (['"'], rest)
  | '"' :: '"' :: '"' :: rest => some ([], rest)
  | '\n' :: rest =>
    if trim then multilineBasicBody? true rest else before '\n' (multilineBasicBody? false rest)
  | '\r' :: '\n' :: rest =>
    if trim then multilineBasicBody? true rest else before '\n' (multilineBasicBody? false rest)
  | '\\' :: 'u' :: a :: b :: c :: d :: rest => do
    before (← codePoint? [a, b, c, d]) (multilineBasicBody? false rest)
  | '\\' :: 'U' :: a :: b :: c :: d :: e :: f :: g :: h :: rest => do
    before (← codePoint? [a, b, c, d, e, f, g, h]) (multilineBasicBody? false rest)
  | '\\' :: c :: rest =>
    if onlyBlanksLeft (c :: rest) then multilineBasicBody? true (c :: rest)
    else do
      before (← shortEscape? c) (multilineBasicBody? false rest)
  | c :: rest =>
    if trim && isBlank c then multilineBasicBody? true rest
    else if c != '\\' && isTextChar c then before c (multilineBasicBody? false rest)
    else none

/-- A literal string on several lines up to its closing quotes, one or two
    quotes before which belong to the text. -/
def multilineLiteralBody? : List Char → Option (List Char × List Char)
  | [] => none
  | '\'' :: '\'' :: '\'' :: '\'' :: '\'' :: rest => some (['\'', '\''], rest)
  | '\'' :: '\'' :: '\'' :: '\'' :: rest => some (['\''], rest)
  | '\'' :: '\'' :: '\'' :: rest => some ([], rest)
  | '\n' :: rest => before '\n' (multilineLiteralBody? rest)
  | '\r' :: '\n' :: rest => before '\n' (multilineLiteralBody? rest)
  | c :: rest => if isTextChar c then before c (multilineLiteralBody? rest) else none

/-- A string of any form. -/
def string? : List Char → Option (String × List Char)
  | '"' :: '"' :: '"' :: rest => ofBody (multilineBasicBody? false (afterFirstNewline rest))
  | '"' :: rest => ofBody (basicBody? rest)
  | '\'' :: '\'' :: '\'' :: rest => ofBody (multilineLiteralBody? (afterFirstNewline rest))
  | '\'' :: rest => ofBody (literalBody? rest)
  | _ => none
where
  ofBody (read : Option (List Char × List Char)) : Option (String × List Char) :=
    read.map fun (text, rest) => (String.ofList text, rest)

/-! ## Keys -/

/-- A character of a key without quotes. -/
def isKeyChar (c : Char) : Bool :=
  c.isAlphanum || c == '_' || c == '-'

/-- One part of a key. -/
def keyPart? : List Char → Option (String × List Char)
  | '"' :: rest => (basicBody? rest).map fun (text, rest) => (String.ofList text, rest)
  | '\'' :: rest => (literalBody? rest).map fun (text, rest) => (String.ofList text, rest)
  | cs =>
    match cs.takeWhile isKeyChar with
    | [] => none
    | text => some (String.ofList text, cs.dropWhile isKeyChar)

/-- The parts of a key between dots, at most that many, with the blanks around
    them. -/
def key? : Nat → List Char → Option (List String × List Char)
  | 0, _ => none
  | n + 1, cs => do
    let (part, rest) ← keyPart? (skipBlanks cs)
    match skipBlanks rest with
    | '.' :: rest =>
      let (parts, rest) ← key? n rest
      return (part :: parts, rest)
    | rest => return ([part], rest)

end HostedFs.Toml
