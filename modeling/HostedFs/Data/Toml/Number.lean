import HostedFs.Data.Tree
import HostedFs.Options.Numeral

/-! # Numbers, dates and times of TOML

    An integer is one of 64 bits with a sign. A number with a fraction or an
    exponent is well formed unless it is too great to be one; what it is does
    not matter, for no field holds one. A date must be one of the calendar.
-/

namespace HostedFs.Toml

open Options.Numeral (ofDigits digit?)

/-! ## Digits -/

/-- Digits of a radix at the front, single underscores between them left out. -/
def takeDigits (radix : Nat) : List Char → List Nat × List Char
  | '_' :: c :: rest =>
    match digit? radix c with
    | some d =>
      let (digits, rest) := takeDigits radix rest
      (d :: digits, rest)
    | none => ([], '_' :: c :: rest)
  | c :: rest =>
    match digit? radix c with
    | some d =>
      let (digits, rest) := takeDigits radix rest
      (d :: digits, rest)
    | none => ([], c :: rest)
  | [] => ([], [])

/-- One or more digits of a radix at the front. -/
def digits? (radix : Nat) (cs : List Char) : Option (List Nat × List Char) :=
  match cs with
  | '_' :: _ => none
  | _ =>
    match takeDigits radix cs with
    | ([], _) => none
    | (digits, rest) => some (digits, rest)

/-! ## Dates and times -/

/-- A number of two decimal digits at the front. -/
def twoDigits? : List Char → Option (Nat × List Char)
  | a :: b :: rest => do
    return (10 * (← digit? 10 a) + (← digit? 10 b), rest)
  | _ => none

/-- Every fourth year is a leap year, but of those that end a century only
    every fourth. -/
def isLeapYear (year : Nat) : Bool :=
  year % 4 == 0 && (year % 100 != 0 || year % 400 == 0)

/-- The number of days of a month. -/
def daysIn (year month : Nat) : Nat :=
  if month == 2 then if isLeapYear year then 29 else 28
  else if month == 4 || month == 6 || month == 9 || month == 11 then 30
  else 31

/-- What follows a date of the calendar. -/
def afterDate? (cs : List Char) : Option (List Char) := do
  let (century, rest) ← twoDigits? cs
  let (year, rest) ← twoDigits? rest
  let year := 100 * century + year
  let '-' :: rest := rest | none
  let (month, rest) ← twoDigits? rest
  let '-' :: rest := rest | none
  let (day, rest) ← twoDigits? rest
  if 1 ≤ month && month ≤ 12 && 1 ≤ day && day ≤ daysIn year month then return rest else none

/-- What follows the fraction of a second, if there is one. -/
def afterSecondFraction? : List Char → Option (List Char)
  | '.' :: rest =>
    match rest.takeWhile Char.isDigit with
    | [] => none
    | _ => some (rest.dropWhile Char.isDigit)
  | rest => some rest

/-- What follows hours and minutes. -/
def afterMinutes? (cs : List Char) : Option (List Char) := do
  let (hour, rest) ← twoDigits? cs
  let ':' :: rest := rest | none
  let (minute, rest) ← twoDigits? rest
  if hour < 24 && minute < 60 then return rest else none

/-- What follows a time of the day. The sixtieth second is a leap second. -/
def afterTime? (cs : List Char) : Option (List Char) := do
  let ':' :: rest ← afterMinutes? cs | none
  let (second, rest) ← twoDigits? rest
  if second ≤ 60 then afterSecondFraction? rest else none

/-- What follows the distance from universal time, if there is one. -/
def afterOffset? : List Char → Option (List Char)
  | 'Z' :: rest => some rest
  | 'z' :: rest => some rest
  | '+' :: rest => afterMinutes? rest
  | '-' :: rest => afterMinutes? rest
  | rest => some rest

/-- What follows a date, with a time if one follows it. -/
def afterMoment? (cs : List Char) : Option (List Char) := do
  match ← afterDate? cs with
  | c :: rest =>
    if c == 'T' || c == 't' || c == ' ' then
      match afterTime? rest with
      | some rest => afterOffset? rest
      | none => return c :: rest
    else return c :: rest
  | [] => return []

/-- The text begins like a date. -/
def startsDate : List Char → Bool
  | a :: b :: c :: d :: '-' :: _ => [a, b, c, d].all Char.isDigit
  | _ => false

/-- The text begins like a time of the day. -/
def startsTime : List Char → Bool
  | a :: b :: ':' :: _ => a.isDigit && b.isDigit
  | _ => false

/-! ## Numbers -/

/-- An integer in the limits of 64 bits. -/
def integer? (n : Int) : Option Tree :=
  if IntKind.Contains ⟨true, .w64⟩ n then some (.int n) else none

/-- Decimal digits without a needless zero in front. -/
def decimal? (cs : List Char) : Option (List Nat × List Char) :=
  match cs with
  | '0' :: rest => some ([0], rest)
  | _ => digits? 10 cs

/-- The sign of an exponent; the flag says that it is a minus. -/
def exponentSign : List Char → Bool × List Char
  | '-' :: rest => (true, rest)
  | '+' :: rest => (false, rest)
  | rest => (false, rest)

/-- The exponent of a number, zero if there is none. -/
def exponent? (cs : List Char) : Option (Int × List Char) :=
  match cs with
  | c :: rest =>
    if c == 'e' || c == 'E' then do
      let (negative, rest) := exponentSign rest
      let (digits, rest) ← digits? 10 rest
      let n : Int := ofDigits 10 digits
      return (if negative then -n else n, rest)
    else some (0, cs)
  | [] => some (0, [])

/-- The least magnitude that is rounded to infinity: half a unit in the last
    place above the greatest number of double precision. -/
def infinityThreshold : Nat :=
  (1 <<< 1024) - (1 <<< 970)

/-- The number `mantissa * 10 ^ exponent` is rounded to infinity. Beyond a few
    hundred digits before the point there is nothing left to compare. -/
def isInfinite (mantissa : Nat) (digits : Nat) (exponent : Int) : Bool :=
  if mantissa == 0 then false
  else if 400 < exponent + digits then true
  else if exponent + digits < 300 then false
  else if 0 ≤ exponent then infinityThreshold ≤ mantissa * Nat.pow 10 exponent.toNat
  else infinityThreshold * Nat.pow 10 (-exponent).toNat ≤ mantissa

/-- A number with the parts before and after the point. Only one that is
    positive may not be infinite. -/
def fraction? (negative : Bool) (whole fraction : List Nat) (exponent : Int) : Option Tree :=
  let digits := (whole ++ fraction).dropWhile (· == 0)
  let exponent := exponent - fraction.length
  if !negative && isInfinite (ofDigits 10 digits) digits.length exponent then none else some .other

/-- A decimal number after its sign. -/
def unsigned? (negative : Bool) (cs : List Char) : Option (Tree × List Char) := do
  let (whole, rest) ← decimal? cs
  match rest with
  | '.' :: rest =>
    let (fraction, rest) ← digits? 10 rest
    let (exponent, rest) ← exponent? rest
    return (← fraction? negative whole fraction exponent, rest)
  | c :: _ =>
    if c == 'e' || c == 'E' then
      let (exponent, rest) ← exponent? rest
      return (← fraction? negative whole [] exponent, rest)
    else return (← integer? (signed whole), rest)
  | [] => return (← integer? (signed whole), [])
where
  signed (digits : List Nat) : Int :=
    if negative then -(ofDigits 10 digits : Int) else ofDigits 10 digits

/-- An integer in another radix. -/
def inRadix? (radix : Nat) (cs : List Char) : Option (Tree × List Char) := do
  let (digits, rest) ← digits? radix cs
  return (← integer? (ofDigits radix digits), rest)

/-- What follows infinity or what is not a number. -/
def afterSpecial? : List Char → Option (List Char)
  | 'i' :: 'n' :: 'f' :: rest => some rest
  | 'n' :: 'a' :: 'n' :: rest => some rest
  | _ => none

/-- A decimal number or a special one after its sign. -/
def signed? (negative : Bool) (cs : List Char) : Option (Tree × List Char) :=
  match afterSpecial? cs with
  | some rest => some (.other, rest)
  | none => unsigned? negative cs

/-- A number, a date or a time. -/
def number? (cs : List Char) : Option (Tree × List Char) :=
  if startsDate cs then (afterMoment? cs).map (.moment, ·)
  else if startsTime cs then (afterTime? cs).map (.moment, ·)
  else
    match cs with
    | '0' :: 'x' :: rest => inRadix? 16 rest
    | '0' :: 'o' :: rest => inRadix? 8 rest
    | '0' :: 'b' :: rest => inRadix? 2 rest
    | '+' :: rest => signed? false rest
    | '-' :: rest => signed? true rest
    | _ => signed? false cs

end HostedFs.Toml
