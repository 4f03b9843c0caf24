import HostedFs.Pattern.Escape

/-! # Classes of patterns

    A class in brackets has items: characters, ranges, classes by name, and
    classes in brackets of their own. Between items may stand an operator, which
    is a character twice. Hyphens at the front of a class stand for themselves,
    and so does a closing bracket that is the first of all.

    Here only the nesting of a class is found, as patterns may nest but so deep.
-/

namespace HostedFs.Pattern

/-- How deep something nests, given how deep each of its parts does. A part that
    is alone counts for the whole. -/
def nesting : List Nat → Nat
  | [] => 0
  | [n] => n
  | n :: ns => ns.foldl max n + 1

namespace Class

/-! ## Items -/

/-- The character can be in a class. -/
def allows (f : Flags) (l : Literal) : Bool :=
  if f.unicode then !f.ignoreCase else l.isAscii

/-- The names by which classes are called, between colons. -/
def names : List String :=
  ["alnum", "alpha", "ascii", "blank", "cntrl", "digit", "graph", "lower", "print", "punct",
    "space", "upper", "word", "xdigit"]

/-- A class by its name, given what follows its bracket: whether it is negated,
    and what follows it. -/
def named? : List Char → Option (Bool × List Char)
  | ':' :: cs =>
    let (negated, cs) :=
      match cs with
      | '^' :: cs => (true, cs)
      | cs => (false, cs)
    match cs.dropWhile (· != ':') with
    | ':' :: ']' :: rest =>
      if names.contains (String.ofList (cs.takeWhile (· != ':'))) then some (negated, rest)
      else none
    | _ => none
  | _ => none

/-- A class by its name can be in a class. -/
def allowsNamed (f : Flags) (negated : Bool) : Bool :=
  if f.unicode then !f.ignoreCase else !negated

/-- A character or an escape, given its first character. -/
def part? (f : Flags) (c : Char) (cs : List Char) : Option (Escape × List Char) :=
  if c == '\\' then Escape.read? f cs else some (.literal ⟨c, false⟩, cs)

/-- An escape is an item by itself. -/
def isItem (f : Flags) : Escape → Bool
  | .literal l => allows f l
  | .shorthand negated => !f.unicode && !negated
  | .edge | .wordEdge => false

/-- Two escapes are the ends of a range. -/
def isRange (f : Flags) : Escape → Escape → Bool
  | .literal first, .literal last => allows f first && allows f last && first.char ≤ last.char
  | _, _ => false

/-- What follows a character, an escape or a range, given its first character. A
    hyphen makes a range unless the class ends after it or another hyphen
    follows. -/
def afterItem? (f : Flags) (c : Char) (cs : List Char) : Option (List Char) := do
  let (first, rest) ← part? f c cs
  match f.skip rest with
  | '-' :: after =>
    if f.peek after == some ']' || f.peek after == some '-' then
      guard (isItem f first)
      return '-' :: after
    match f.skip after with
    | [] => none
    | c :: cs =>
      let (last, rest) ← part? f c cs
      guard (isRange f first last)
      return rest
  | rest =>
    guard (isItem f first)
    return rest

/-! ## Brackets -/

/-- What was read of a class that is open. -/
structure Open where
  /-- How deep the items since the last operator nest. -/
  items : List Nat := []
  /-- How deep all that stands before that operator nests. -/
  left : Option Nat := none
  /-- Only hyphens were read so far. -/
  isFresh : Bool := true
  deriving DecidableEq, Repr

namespace Open

/-- How deep what was read nests. -/
def depth (o : Open) : Nat :=
  match o.left with
  | none => nesting o.items
  | some left => max left (nesting o.items) + 1

/-- The class with one item more. -/
def add (o : Open) (depth : Nat) : Open :=
  { o with items := depth :: o.items, isFresh := false }

/-- The class after an operator. -/
def operate (o : Open) : Open :=
  { left := some o.depth, isFresh := false }

/-- The character stands for itself at the front of the class. -/
def isPlain (o : Open) (c : Char) : Bool :=
  o.isFresh && (c == '-' || (c == ']' && o.items.isEmpty))

end Open

/-- What follows the opening bracket of a class and the mark that it is negated.
    A negated class of bytes would hold some beyond ASCII. -/
def opened? (f : Flags) (cs : List Char) : Option (List Char) :=
  match f.skip cs with
  | '^' :: cs => if f.unicode then some cs else none
  | cs => some cs

/-- How deep a class nests, and what follows it, given what was read of the
    innermost open class and of those around it. The measure bounds the
    items. -/
def close? (f : Flags) : Nat → Open → List Open → List Char → Option (Nat × List Char)
  | 0, _, _, _ => none
  | n + 1, inner, outer, cs =>
    match f.skip cs with
    | [] => none
    | c :: rest =>
      if inner.isPlain c then
        if allows f ⟨c, false⟩ then
          close? f n { inner with items := 0 :: inner.items, isFresh := c == '-' } outer rest
        else none
      else if c == ']' then
        match outer with
        | [] => some (inner.depth + 1, rest)
        | parent :: outer => close? f n (parent.add (inner.depth + 1)) outer rest
      else if c == '[' then
        match named? rest with
        | some (negated, rest) =>
          if allowsNamed f negated then close? f n (inner.add 0) outer rest else none
        | none =>
          match opened? f rest with
          | some rest => close? f n {} (inner :: outer) rest
          | none => none
      else if "&-~".toList.contains c && rest.head? == some c then
        close? f n inner.operate outer rest.tail
      else
        match afterItem? f c rest with
        | some rest => close? f n (inner.add 0) outer rest
        | none => none

end Class

end HostedFs.Pattern
