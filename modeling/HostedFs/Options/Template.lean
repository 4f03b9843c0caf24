import HostedFs.Options.Error
import HostedFs.Options.Numeral
import HostedFs.Options.Slot
import HostedFs.Text.Blank

/-! # Option templates

    A format is a list of templates between blanks. A template names one
    option:

    * `name` matches `name=value`, and for a flag also the bare `name`;
    * `name=` matches `name=value` only;
    * `name=%d` and its like also say how the value is read.

    `Template.assign?` is the one rule that joins a template, the slot it
    fills and a candidate of the command line.
-/

namespace HostedFs.Options

/-- One template of a format. -/
structure Template where
  name : String
  /-- The template spells out `=`: a value is mandatory. -/
  needsValue : Bool
  verb : Option Verb
  deriving DecidableEq, Repr

/-- The text before the first `=`, and the text after it. -/
def keyValue (s : String) : String × Option String :=
  match s.toList.dropWhile (· ≠ '=') with
  | [] => (s, none)
  | _ :: value => (String.ofList (s.toList.takeWhile (· ≠ '=')), some (String.ofList value))

/-- The verb that stands after `=` in a template; `none` for an unknown one. -/
def Verb.ofSpec? : String → Option (Option Verb)
  | "" => some none
  | "%d" | "%i" | "%u" => some (some .decimal)
  | "%o" => some (some .octal)
  | "%x" | "%X" => some (some .hexadecimal)
  | "%v" => some (some .automatic)
  | "%s" => some (some .text)
  | _ => none

namespace Template

/-- A name is not empty and has no percent sign. -/
def IsName (name : String) : Prop :=
  name ≠ "" ∧ '%' ∉ name.toList

instance (name : String) : Decidable (IsName name) :=
  inferInstanceAs (Decidable (_ ∧ _))

/-- The template that a word of a format spells. -/
def parse? (word : String) : Option Template :=
  let (name, spec) := keyValue word
  let template? : Option Template :=
    match spec with
    | none => some ⟨name, false, none⟩
    | some spec => (Verb.ofSpec? spec).map fun verb => ⟨name, true, verb⟩
  template?.filter fun t => decide (IsName t.name)

/-- The templates of a format, or the first word that is none. -/
def parseFormat (format : String) : Except Error (List Template) :=
  (Text.wordsOf format).mapM fun word =>
    match parse? word with
    | some t => .ok t
    | none => .error (.badTemplate word)

/-- The value that a candidate gives to the option: what follows the name and
    an equals sign. -/
def value? (t : Template) (candidate : String) : Option String :=
  match t.name.toList.isPrefixOf? candidate.toList with
  | some ('=' :: value) => some (String.ofList value)
  | _ => none

/-- The number in a value, read as the verb says. -/
def number (verb : Verb) (candidate value : String) : Except Error Int :=
  match Numeral.readBounded? verb value.toList with
  | some n => .ok n
  | none => .error (.badNumber candidate value)

/-- The verb that reads an integer: a template that names none, or that asks
    for text, means decimal. -/
def intVerb (t : Template) : Verb :=
  match t.verb with
  | none | some .text => .decimal
  | some verb => verb

/-- What a candidate makes of the slot of this template: `none` when the
    template does not match, else the slot's new value or the reason why the
    candidate's value cannot be read. -/
def assign? (t : Template) (slot : Slot) (candidate : String) : Option (Except Error Slot) :=
  match slot, t.value? candidate with
  | .flag _, none =>
    if !t.needsValue && candidate == t.name then some (.ok (.flag true)) else none
  | .flag _, some value =>
    match t.verb with
    | none | some .text => some (.ok (.flag true))
    | some verb => some ((number verb candidate value).map fun n => .flag (n != 0))
  | .text _, value? => value?.map fun value => .ok (.text value)
  | .int kind _, value? =>
    value?.map fun value => do
      let n ← number t.intVerb candidate value
      if Slot.Accepts kind n then .ok (.int kind (kind.ofInt n))
      else .error (.outOfRange candidate value)

end Template

end HostedFs.Options
