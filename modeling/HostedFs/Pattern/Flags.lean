import HostedFs.Text.Blank

/-! # Flags of patterns

    A pattern is a regular expression. Its flags are letters that say how to
    read what follows them; they hold up to the end of the group that they are
    set in.

    * `Flags.after`: the flags once some of them were changed;
    * `Flags.skip`, `Flags.peek`: reading on where blanks do not count.
-/

namespace HostedFs.Pattern

/-- The flags on which it depends whether a pattern makes sense. -/
structure Flags where
  /-- Classes hold characters, and not bytes. -/
  unicode : Bool := true
  ignoreCase : Bool := false
  /-- Blanks and comments do not count. -/
  spaced : Bool := false
  deriving DecidableEq, Repr

/-- The letters of all flags. -/
def flagLetters : List Char :=
  "imsUuRx".toList

/-- A flag once some letters were read. A letter after the hyphen takes its flag
    away. -/
def flagAfter (letters : List Char) (letter : Char) (before : Bool) : Bool :=
  if letters.contains letter then !(letters.takeWhile (· != letter)).contains '-' else before

namespace Flags

/-- The flags once some letters were read. -/
def after (f : Flags) (letters : List Char) : Flags where
  unicode := flagAfter letters 'u' f.unicode
  ignoreCase := flagAfter letters 'i' f.ignoreCase
  spaced := flagAfter letters 'x' f.spaced

/-! ## Blanks -/

/-- What follows blanks and comments. A comment goes from a number sign to the
    end of its line; the flag says that one has begun. -/
def afterSpace : Bool → List Char → List Char
  | _, [] => []
  | true, c :: cs => afterSpace (c != '\n') cs
  | false, c :: cs =>
    if Text.isBlank c then afterSpace false cs
    else if c == '#' then afterSpace true cs
    else c :: cs

/-- What follows once all that does not count is passed over. -/
def skip (f : Flags) (cs : List Char) : List Char :=
  if f.spaced then afterSpace false cs else cs

/-- The character that a look ahead shows. It sees past blanks and past one
    number sign; where nothing is left, it shows what comes at once. -/
def peek (f : Flags) (cs : List Char) : Option Char :=
  if f.spaced then
    let ahead :=
      match cs.dropWhile Text.isBlank with
      | '#' :: rest => rest.dropWhile Text.isBlank
      | rest => rest
    ahead.head?.or cs.head?
  else cs.head?

end Flags

/-! ## Changes -/

/-- The letters that change flags, and what follows them, from the colon or the
    bracket on. No letter occurs twice, and a hyphen has letters after it. -/
def letters? (cs : List Char) : Option (List Char × List Char) :=
  let letters := cs.takeWhile fun c => c != ':' && c != ')'
  if letters.all ('-' :: flagLetters).contains && letters.eraseDups == letters &&
      letters.getLast? != some '-' then
    some (letters, cs.drop letters.length)
  else none

end HostedFs.Pattern
