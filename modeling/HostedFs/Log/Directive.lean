import HostedFs.Event
import HostedFs.Log.Value
import HostedFs.Options.Numeral
import HostedFs.Text.Blank
import HostedFs.Text.Letter
import HostedFs.Text.Utf8

/-! # Directives of a filter

    A directive allows events up to a level of detail: all, those of a part of
    the program, those that have a field, or those within a span. It is

    * a level alone, or
    * the name of a part, or a span in brackets, or both, and then perhaps a
      level after an equals sign. In the brackets stands the name of the span,
      and in braces a field with or without a value.

    Blanks around a directive do not count when it is taken apart, but the
    parts are cut out of it with the blanks in place, at the positions found
    without them. A cut that would divide a character breaks off.
-/

namespace HostedFs.Log

/-- A directive. -/
structure Directive where
  /-- How the names of the parts begin that it is for; every part without. -/
  target : Option String := none
  /-- The span that it is for. -/
  span : Option String := none
  /-- The field that an event must have. -/
  field : Option String := none
  /-- The field must also have a certain value. -/
  valued : Bool := false
  /-- The greatest detail that passes. Zero lets nothing pass, five
      everything. -/
  level : Nat
  deriving DecidableEq, Repr

/-- Why a directive is not read. -/
inductive DirectiveError
  /-- Its parts do not stand together so. -/
  | senseless
  /-- There is no such level. -/
  | noLevel
  /-- The value of a field is no number, and as a pattern it has a fault. -/
  | noValue (fault : Pattern.Fault)
  /-- A cut would divide a character. -/
  | divided
  deriving DecidableEq, Repr

/-- The text shown for an error. -/
def DirectiveError.message : DirectiveError → String
  | .senseless => "invalid filter directive"
  | .noLevel =>
    "error parsing level filter: expected one of \"off\", \"error\", \"warn\", \"info\", " ++
      "\"debug\", \"trace\", or a number 0-5"
  | .noValue fault => "invalid field filter: " ++ fault.message
  | .divided => "byte index is not a char boundary"

/-- All detail there is. -/
def everything : Nat :=
  5

/-- The names of the levels, from the least detail on. -/
def levelNames : List String :=
  ["off", "error", "warn", "info", "debug", "trace"]

/-- A level by its name in any case, or by its number, which may have a plus
    sign. -/
def level? (s : String) : Option Nat :=
  let digits :=
    match s.toList with
    | '+' :: cs => cs
    | cs => cs
  match Options.Numeral.magnitude? 10 digits with
  | some n => if n ≤ everything then some n else none
  | none => levelNames.idxOf? s.toLower

namespace Directive

/-! ## Cutting -/

/-- A part of a directive between two positions. -/
def cut (text : String) (first last : Nat) : Except DirectiveError String :=
  match Text.cut? text first last with
  | some part => .ok part
  | none => .error .divided

/-- The part of a directive from a position on. -/
def cutFrom (text : String) (first : Nat) : Except DirectiveError String :=
  cut text first text.utf8ByteSize

/-- The number of bytes of some characters. -/
def width (cs : List Char) : Nat :=
  cs.foldl (fun n c => n + c.utf8Size) 0

/-- The characters before the first of some, and the rest from there on. -/
def splitBefore (stops : List Char) (cs : List Char) : List Char × List Char :=
  (cs.takeWhile (!stops.contains ·), cs.dropWhile (!stops.contains ·))

/-! ## Parts -/

/-- The level from a position on. Where nothing stands there, all detail
    passes. -/
def levelFrom (text : String) (first : Nat) : Except DirectiveError Nat := do
  let part ← cutFrom text first
  if part.isEmpty then return everything
  match level? part with
  | some level => return level
  | none => throw .noLevel

/-- What stands after the brackets of a span, which end at a position. -/
def afterSpan (text : String) (d : Directive) (position : Nat) :
    List Char → Except DirectiveError Directive
  | [] => .ok d
  | '=' :: _ => do return { d with level := ← levelFrom text (position + 1) }
  | _ => .error .senseless

/-- The braces of a field that start at a position, and what follows the
    span. -/
def fieldAt (text : String) (d : Directive) (position : Nat) (cs : List Char) :
    Except DirectiveError Directive := do
  let (field, rest) := splitBefore ['\x7d'] cs
  match rest with
  | _ :: rest =>
    let last := position + width field
    match (← cut text position last).splitOn "=" with
    | name :: values =>
      if name.isEmpty && values.isEmpty then throw .senseless
      values.head?.forM fun value => (Value.check value).mapError .noValue
      match rest with
      | ']' :: rest =>
        afterSpan text { d with field := some name, valued := !values.isEmpty } (last + 2) rest
      | _ => throw .senseless
    | [] => throw .senseless
  | [] => throw .senseless

/-- The brackets of a span that start at a position, and what follows. -/
def spanAt (text : String) (d : Directive) (position : Nat) (cs : List Char) :
    Except DirectiveError Directive := do
  let (span, rest) := splitBefore [']', '\x7b'] cs
  let last := position + width span
  match rest with
  | ']' :: rest =>
    afterSpan text { d with span := some (← cut text position last) } (last + 1) rest
  | '\x7b' :: rest =>
    let name ← cut text position last
    let span := if name.isEmpty then none else some name
    fieldAt text { d with span } (last + 1) rest
  | _ => throw .senseless

/-- The characters with which the name of a part begins. -/
def startsName (c : Char) : Bool :=
  c == '-' || c == ':' || c == '_' || Text.isAlphanumeric c

/-- A text without the blanks around it. -/
def trimmed (text : String) : List Char :=
  ((text.toList.dropWhile Text.isBlank).reverse.dropWhile Text.isBlank).reverse

/-- The directive that a text spells. -/
def parse (text : String) : Except DirectiveError Directive := do
  match trimmed text with
  | [] => throw .senseless
  | '[' :: cs => spanAt text { level := everything } 1 cs
  | c :: cs =>
    if !startsName c then throw .senseless
    let (name, rest) := splitBefore ['=', '['] cs
    let last := width (c :: name)
    match rest with
    | '=' :: _ =>
      let target ← cut text 0 last
      return { target, level := ← levelFrom text (last + 1) }
    | '[' :: rest =>
      spanAt text { target := ← cut text 0 last, level := everything } (last + 1) rest
    | _ =>
      match level? text with
      | some level => return { level }
      | none => return { target := text, level := everything }

/-! ## Events -/

/-- The directive is for an event. No event is within a span, and the values of
    fields are compared in spans only. -/
def concerns (d : Directive) (e : Event) : Bool :=
  d.span.isNone && !d.valued && d.target.all (·.isPrefixOf e.origin) &&
    d.field.all e.fieldNames.contains

/-- How fully a directive names what it is for: first by the length of the part's
    name, then by a field, and the later field in the order of texts. -/
def fullness (d : Directive) : Nat × Nat × String :=
  ((d.target.map fun t => t.utf8ByteSize + 1).getD 0, if d.field.isSome then 1 else 0,
    d.field.getD "")

/-- A directive names at least as fully as another what it is for. -/
def isAtLeast (d other : Directive) : Bool :=
  let (a, b, c) := d.fullness
  let (a', b', c') := other.fullness
  a' < a || (a' == a && (b' < b || (b' == b && c' ≤ c)))

end Directive

end HostedFs.Log
