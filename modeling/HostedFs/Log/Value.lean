import HostedFs.Options.Numeral
import HostedFs.Pattern.Group

/-! # Values in filters

    A filter can ask for the value of a field, by a number or by a pattern. No
    value is ever compared here, but one that is neither makes no sense, and so
    a reader has to tell.
-/

namespace HostedFs.Log.Value

/-- The digits of an exponent, after its letter and perhaps a sign, or nothing
    at all. -/
def isExponent : List Char → Bool
  | [] => true
  | c :: cs =>
    let (_, digits) := Options.Numeral.takeSign cs
    (c == 'e' || c == 'E') && !digits.isEmpty && digits.all Char.isDigit

/-- The names for what is no finite number. -/
def unboundedNames : List String :=
  ["inf", "infinity", "nan"]

/-- The text is a decimal number without a sign, perhaps with a point and an
    exponent, or a name for what is no finite number. -/
def isUnsigned (cs : List Char) : Bool :=
  let (whole, rest) := (cs.takeWhile Char.isDigit, cs.dropWhile Char.isDigit)
  let (places, rest) :=
    match rest with
    | '.' :: rest => (rest.takeWhile Char.isDigit, rest.dropWhile Char.isDigit)
    | rest => ([], rest)
  (!(whole ++ places).isEmpty && isExponent rest) ||
    unboundedNames.contains (String.ofList cs).toLower

/-- The text makes sense as a value. A number without a plus sign is a pattern,
    too, and one with it is none. -/
def check (text : String) : Except Pattern.Fault Unit :=
  match text.toList with
  | '+' :: cs => if isUnsigned cs then .ok () else .error .malformed
  | cs => Pattern.check cs

end HostedFs.Log.Value
