import HostedFs.Text.Quoted

/-! # Errors of option parsing -/

namespace HostedFs.Options

/-- Why a command line cannot be read. -/
inductive Error
  /-- The templates and the slots are not equally many. -/
  | arity (templates slots : Nat)
  /-- A template has no name, a bad name or an unknown verb. -/
  | badTemplate (text : String)
  /-- The option needs a value, and no argument follows it. -/
  | missingValue (option : String)
  /-- The value is no numeral. -/
  | badNumber (option value : String)
  /-- The slot cannot hold the number. -/
  | outOfRange (option value : String)
  deriving DecidableEq, Repr

/-- The text shown for an error. -/
def Error.message : Error → String
  | .arity templates slots =>
    s!"format has {templates} templates but {slots} destinations were supplied"
  | .badTemplate text => "malformed option template " ++ Text.quoted text
  | .missingValue option => "option " ++ Text.quoted option ++ " requires a value"
  | .badNumber option value =>
    "invalid numeric value " ++ Text.quoted value ++ " for option " ++ Text.quoted option
  | .outOfRange option value =>
    "value " ++ Text.quoted value ++ " for option " ++ Text.quoted option ++
      " does not fit the destination"

/-- The name of the case of an error. -/
def Error.caseName : Error → String
  | .arity .. => "Arity"
  | .badTemplate .. => "BadTemplate"
  | .missingValue .. => "MissingValue"
  | .badNumber .. => "BadNumber"
  | .outOfRange .. => "OutOfRange"

end HostedFs.Options
