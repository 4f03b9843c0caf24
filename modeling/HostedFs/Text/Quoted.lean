import HostedFs.Text.Printable

/-! # Quoted text

    How messages show a string: in double quotes, with a backslash before a
    quote or a backslash, short escapes for the common control characters, and
    the code point in braces for every other character that cannot be shown.
-/

namespace HostedFs.Text

/-- Lower-case hexadecimal digits of a number, without leading zeros. -/
def hex (n : Nat) : String :=
  String.ofList (Nat.toDigits 16 n)

/-- One character as it stands inside quotes. -/
def escapeChar (c : Char) : String :=
  match c with
  | '"' => "\\\""
  | '\\' => "\\\\"
  | '\n' => "\\n"
  | '\r' => "\\r"
  | '\t' => "\\t"
  | '\x00' => "\\0"
  | c => if isShowable c then c.toString else "\\u\x7b" ++ hex c.toNat ++ "\x7d"

/-- The string in quotes. -/
def quoted (s : String) : String :=
  "\"" ++ String.join (s.toList.map escapeChar) ++ "\""

/-- An optional string, shown with the name of its case. -/
def quotedOption : Option String → String
  | none => "None"
  | some s => "Some(" ++ quoted s ++ ")"

end HostedFs.Text
