/-! # Numerals in option values

    A numeral is an optional sign and digits of one base. The verb of an
    option's template says which base, and whether a mark such as `0x` may
    stand before the digits.

    * `Verb`: how the text of a value is read;
    * `Numeral.magnitude?`: the number that a run of digits stands for;
    * `Numeral.read?`: the number that a signed numeral stands for.
-/

namespace HostedFs.Options

/-- How the text after `=` is read. -/
inductive Verb
  /-- Decimal digits. -/
  | decimal
  /-- Octal digits. -/
  | octal
  /-- Hexadecimal digits, after an optional `0x`. -/
  | hexadecimal
  /-- The digits' own mark tells the base: `0x` hexadecimal, `0` octal. -/
  | automatic
  /-- The text itself. -/
  | text
  deriving DecidableEq, Repr

namespace Numeral

/-- The value of a digit of the radix; letters of either case stand for ten
    and above. -/
def digit? (radix : Nat) (c : Char) : Option Nat :=
  let value? :=
    if '0' ≤ c ∧ c ≤ '9' then some (c.toNat - '0'.toNat)
    else if 'a' ≤ c ∧ c ≤ 'z' then some (c.toNat - 'a'.toNat + 10)
    else if 'A' ≤ c ∧ c ≤ 'Z' then some (c.toNat - 'A'.toNat + 10)
    else none
  value?.filter (· < radix)

/-- The number written by digits, the greatest first. -/
def ofDigits (radix : Nat) (digits : List Nat) : Nat :=
  digits.foldl (fun n d => n * radix + d) 0

/-- The number that one or more digits stand for. -/
def magnitude? (radix : Nat) : List Char → Option Nat
  | [] => none
  | cs => (cs.mapM (digit? radix)).map (ofDigits radix)

/-- Takes one sign off the front. The flag says that it was a minus. -/
def takeSign : List Char → Bool × List Char
  | '-' :: cs => (true, cs)
  | '+' :: cs => (false, cs)
  | cs => (false, cs)

/-- What follows the mark of a hexadecimal numeral. -/
def afterHexMark? : List Char → Option (List Char)
  | '0' :: 'x' :: cs => some cs
  | '0' :: 'X' :: cs => some cs
  | _ => none

/-- The radix and the digits of an unsigned numeral. -/
def split (verb : Verb) (cs : List Char) : Nat × List Char :=
  match verb with
  | .decimal | .text => (10, cs)
  | .octal => (8, cs)
  | .hexadecimal => (16, (afterHexMark? cs).getD cs)
  | .automatic =>
    match afterHexMark? cs, cs with
    | some digits, _ => (16, digits)
    | none, '0' :: c :: digits => (8, c :: digits)
    | none, cs => (10, cs)

/-- The integer that a signed numeral stands for, however long it is. -/
def read? (verb : Verb) (cs : List Char) : Option Int :=
  let (negative, unsigned) := takeSign cs
  let (radix, digits) := split verb unsigned
  (magnitude? radix digits).map fun m => if negative then -(m : Int) else m

/-- The greatest magnitude that a numeral may have. -/
def largest : Nat :=
  (1 <<< 127) - 1

/-- The integer that a numeral of at most the largest magnitude stands for. -/
def readBounded? (verb : Verb) (cs : List Char) : Option Int :=
  (read? verb cs).filter fun n => n.natAbs ≤ largest

end Numeral

end HostedFs.Options
