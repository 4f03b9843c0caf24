import HostedFs.Options.Numeral
import HostedFs.Pattern.Flags

/-! # Escapes of patterns

    What stands after a backslash: a character that would otherwise have a
    meaning, a control character by a letter, any character by its number, a
    class by a letter, or a place in the text.

    Classes by the name of a property of Unicode are not known, and so they make
    no sense here.
-/

namespace HostedFs.Pattern

/-- A character that stands for itself. -/
structure Literal where
  char : Char
  /-- It is spelled by two hexadecimal digits, which can also mean a byte. -/
  isByte : Bool := false
  deriving DecidableEq, Repr

/-- The character is in ASCII. -/
def Literal.isAscii (l : Literal) : Bool :=
  l.char.toNat < 0x80

/-- The character can stand by itself. What is the same but for its case is not
    known beyond ASCII, and no byte may be left that is not a character. -/
def Flags.allows (f : Flags) (l : Literal) : Bool :=
  if f.unicode then !f.ignoreCase else l.isAscii || !l.isByte

/-- What an escape stands for. -/
inductive Escape
  | literal (l : Literal)
  /-- The digits, the blanks or the characters of words, or all others. -/
  | shorthand (negated : Bool)
  /-- The start or the end of the text. -/
  | edge
  /-- Where a word starts or ends, or where none does. -/
  | wordEdge
  deriving DecidableEq, Repr

namespace Escape

/-- The number of hexadecimal digits after a letter. -/
def hexLength? : Char → Option Nat
  | 'x' => some 2
  | 'u' => some 4
  | 'U' => some 8
  | _ => none

/-- The control character that a letter stands for. -/
def control? : Char → Option Char
  | 'a' => some '\x07'
  | 'f' => some '\x0c'
  | 't' => some '\t'
  | 'n' => some '\n'
  | 'r' => some '\r'
  | 'v' => some '\x0b'
  | _ => none

/-- An ASCII character that stands for itself after a backslash. -/
def isSelf (c : Char) : Bool :=
  c.toNat < 0x80 && !c.isAlphanum && c != '<' && c != '>'

/-- A number of hexadecimal digits, and what follows them. -/
def hexDigits? (f : Flags) : Nat → List Char → Option (List Char × List Char)
  | 0, cs => some ([], cs)
  | _ + 1, [] => none
  | n + 1, c :: cs => do
    guard (Options.Numeral.digit? 16 c).isSome
    let (digits, rest) ← hexDigits? f n (f.skip cs)
    return (c :: digits, rest)

/-- What a single character after a backslash stands for. -/
def ofChar? (c : Char) : Option Escape :=
  if isSelf c then some (.literal ⟨c, false⟩)
  else
    match control? c with
    | some control => some (.literal ⟨control, false⟩)
    | none =>
      if "dsw".toList.contains c then some (.shorthand false)
      else if "DSW".toList.contains c then some (.shorthand true)
      else if "Az".toList.contains c then some .edge
      else if "bB<>".toList.contains c then some .wordEdge
      else none

/-- The escape after a backslash, and what follows it. -/
def read? (f : Flags) : List Char → Option (Escape × List Char)
  | [] => none
  | c :: cs =>
    match hexLength? c with
    | none => (ofChar? c).map (·, cs)
    | some n => do
      let (digits, rest) ← hexDigits? f n (f.skip cs)
      let code ← Options.Numeral.magnitude? 16 digits
      guard code.isValidChar
      return (.literal ⟨Char.ofNat code, c == 'x'⟩, rest)

/-- The escape can stand by itself. Which characters a class has is known for
    ASCII only, and no class may hold a byte beyond it. -/
def isAllowed (f : Flags) : Escape → Bool
  | .literal l => f.allows l
  | .shorthand negated => !f.unicode && !negated
  | .edge | .wordEdge => true

/-- The escape asks which characters beyond ASCII words have. -/
def asksForWords (f : Flags) : Escape → Bool
  | .wordEdge => f.unicode
  | _ => false

end Escape

end HostedFs.Pattern
