/-! # The command line of the probe

    The probe takes a mountpoint and options. A short option may stand with
    others behind one dash, and its value may follow at once, after an equals
    sign or as the next argument; a long option has its value after an equals
    sign or as the next argument. All that follows `--` is positional.

    Arguments are read in order. An option that still waits for its value is
    settled when the next one is met; the first complaint decides.
-/

namespace HostedFs.Probe

/-- What the command line says. -/
structure Arguments where
  mountpoint : Option String := none
  /-- Options for the native library, in order. -/
  options : List String := []
  debug : Bool := false
  singleThreaded : Bool := false
  config : Option String := none
  dumpDefaultConfig : Bool := false
  deriving DecidableEq, Repr

/-- Why the command line is not carried out as it stands. -/
inductive Refusal
  | unknownArgument
  | invalidValue
  | argumentConflict
  | tooManyValues
  | displayHelp
  | displayVersion
  deriving DecidableEq, Repr

/-- The name of the case of a refusal. -/
def Refusal.caseName : Refusal → String
  | .unknownArgument => "UnknownArgument"
  | .invalidValue => "InvalidValue"
  | .argumentConflict => "ArgumentConflict"
  | .tooManyValues => "TooManyValues"
  | .displayHelp => "DisplayHelp"
  | .displayVersion => "DisplayVersion"

/-- The options. -/
inductive Flag
  | options
  | debug
  | singleThreaded
  | config
  | dumpDefaultConfig
  | help
  | version
  deriving DecidableEq, Repr

namespace Flag

/-- The option of a letter. -/
def ofLetter? : Char → Option Flag
  | 'o' => some .options
  | 'd' => some .debug
  | 's' => some .singleThreaded
  | 'c' => some .config
  | 'h' => some .help
  | 'V' => some .version
  | _ => none

/-- The option of a name. -/
def ofName? (name : String) : Option Flag :=
  if name = "debug" then some .debug
  else if name = "single-threaded" then some .singleThreaded
  else if name = "config" then some .config
  else if name = "dump-default-config" then some .dumpDefaultConfig
  else if name = "help" then some .help
  else if name = "version" then some .version
  else none

/-- The option takes a value. -/
def takesValue : Flag → Bool
  | .options | .config => true
  | .debug | .singleThreaded | .dumpDefaultConfig | .help | .version => false

end Flag

/-- An option that was met and is not settled yet, with its value once that is
    known. -/
structure Pending where
  /-- It is the option for the configuration file, else one for the native
      library. -/
  isConfig : Bool
  value : Option String
  deriving DecidableEq, Repr

/-- The arguments read so far. -/
structure Reading where
  arguments : Arguments := {}
  pending : Option Pending := none
  deriving DecidableEq, Repr

namespace Reading

/-- Gives an option its value. -/
def give (a : Arguments) (isConfig : Bool) (value : String) : Except Refusal Arguments :=
  if isConfig then
    if a.config.isSome then .error .argumentConflict
    else if value.isEmpty then .error .invalidValue
    else .ok { a with config := some value }
  else .ok { a with options := a.options ++ [value] }

/-- Settles the option that waits, if there is one. -/
def settle (r : Reading) : Except Refusal Arguments :=
  match r.pending with
  | none => .ok r.arguments
  | some ⟨_, none⟩ => .error .invalidValue
  | some ⟨isConfig, some value⟩ => give r.arguments isConfig value

/-- Sets an option that takes no value. -/
def set (a : Arguments) : Flag → Except Refusal Arguments
  | .debug => if a.debug then .error .argumentConflict else .ok { a with debug := true }
  | .singleThreaded =>
    if a.singleThreaded then .error .argumentConflict else .ok { a with singleThreaded := true }
  | .dumpDefaultConfig =>
    if a.dumpDefaultConfig then .error .argumentConflict
    else .ok { a with dumpDefaultConfig := true }
  | .help => .error .displayHelp
  | .version => .error .displayVersion
  | .options | .config => .ok a

/-- The value after an equals sign, or the text itself. -/
def afterEquals : List Char → List Char
  | '=' :: cs => cs
  | cs => cs

/-- Reads the letters behind one dash. -/
def cluster : Reading → List Char → Except Refusal Reading
  | r, [] => .ok r
  | r, c :: cs => do
    match Flag.ofLetter? c with
    | none => .error .unknownArgument
    | some flag =>
      let arguments ← r.settle
      let isConfig := flag == .config
      if flag.takesValue then
        if cs.isEmpty then return ⟨arguments, some ⟨isConfig, none⟩⟩
        else return ⟨← give arguments isConfig (String.ofList (afterEquals cs)), none⟩
      else cluster ⟨← set arguments flag, none⟩ cs

/-- Reads an option by its name. -/
def long (r : Reading) (name : List Char) : Except Refusal Reading := do
  match Flag.ofName? (String.ofList (name.takeWhile (· != '='))) with
  | none => .error .unknownArgument
  | some flag =>
    let isConfig := flag == .config
    match flag.takesValue, name.dropWhile (· != '=') with
    | true, [] => return ⟨← r.settle, some ⟨isConfig, none⟩⟩
    | true, value =>
      return ⟨← give (← r.settle) isConfig (String.ofList (afterEquals value)), none⟩
    | false, [] => return ⟨← set (← r.settle) flag, none⟩
    | false, _ => .error .tooManyValues

/-- Reads a positional argument; there is place for one. -/
def positional (r : Reading) (s : String) : Except Refusal Reading := do
  if r.arguments.mountpoint.isSome then .error .unknownArgument
  else return ⟨{ ← r.settle with mountpoint := some s }, none⟩

/-- Reads an argument that is no option: the value of the option that waits for
    one, or a positional argument. -/
def operand (r : Reading) (s : String) : Except Refusal Reading :=
  match r.pending with
  | some ⟨isConfig, none⟩ => .ok { r with pending := some ⟨isConfig, some s⟩ }
  | _ => r.positional s

/-- Reads one argument before any `--`. -/
def argument (r : Reading) (s : String) : Except Refusal Reading :=
  match s.toList with
  | '-' :: '-' :: name => r.long name
  | ['-'] => r.operand s
  | '-' :: letters => r.cluster letters
  | _ => r.operand s

/-- Reads the arguments that remain. -/
def all : Reading → List String → Except Refusal Reading
  | r, [] => .ok r
  | r, s :: args =>
    if s = "--" then args.foldlM positional r
    else do
      all (← r.argument s) args

end Reading

/-- Reads a command line, whose first argument is the program's own name. -/
def readArguments (argv : List String) : Except Refusal Arguments := do
  (← Reading.all {} argv.tail).settle

end HostedFs.Probe
