import HostedFs.Log.Directive

/-! # Filters for events

    A filter is a list of directives between commas. Of the directives for an
    event the one that names most fully what it is for decides, and of equal
    ones the last.

    A directive that makes no sense is left out, with a remark. Without any that
    does make sense, only errors pass.
-/

namespace HostedFs.Log

/-- A filter. -/
structure Filter where
  directives : List Directive
  deriving DecidableEq, Repr

namespace Filter

/-- Only errors pass. -/
def standard : Filter :=
  ⟨[{ level := Severity.error.detail }]⟩

/-! ## Reading -/

/-- What came of reading directives. -/
structure Reading where
  /-- What is told about those that are not read. -/
  remarks : List String := []
  /-- Those that are, unless reading one of them broke off. -/
  directives? : Option (List Directive) := some []
  deriving DecidableEq, Repr

/-- The most bytes of a directive that a remark shows when reading it breaks
    off. -/
def longestShown : Nat :=
  256

/-- The characters within a number of bytes. -/
def within : Nat → List Char → List Char
  | _, [] => []
  | n, c :: cs => if c.utf8Size ≤ n then c :: within (n - c.utf8Size) cs else []

/-- A text that a remark shows, with a mark where it is cut short. -/
def shown (text : String) : String :=
  let start := String.ofList (within longestShown text.toList)
  "\x60" ++ start ++ "\x60" ++ (if start = text then "" else "[...]")

/-- Reads directives one after the other. -/
def readAll : List String → Reading
  | [] => {}
  | text :: texts =>
    match Directive.parse text with
    | .ok d =>
      let r := readAll texts
      { r with directives? := r.directives?.map (d :: ·) }
    | .error .divided =>
      { remarks := [DirectiveError.divided.message ++ " of " ++ shown text], directives? := none }
    | .error e =>
      let r := readAll texts
      { r with remarks := ("ignoring \x60" ++ text ++ "\x60: " ++ e.message) :: r.remarks }

/-- Reads the directives of a text. -/
def read (text : String) : Reading :=
  readAll ((text.splitOn ",").filter (· ≠ ""))

/-- The filter that a text spells, unless reading it breaks off. -/
def ofText? (text : String) : Option Filter :=
  match (read text).directives? with
  | some [] => some standard
  | some directives => some ⟨directives⟩
  | none => none

/-- The remarks on what a text spells. -/
def remarks (text : String) : List String :=
  (read text).remarks

/-! ## Events -/

/-- The directive that decides for an event. -/
def deciding? (f : Filter) (e : Event) : Option Directive :=
  (f.directives.filter (·.concerns e)).foldl
    (fun best d =>
      match best with
      | none => some d
      | some b => if d.isAtLeast b then some d else some b)
    none

/-- The event passes. -/
def passes (f : Filter) (e : Event) : Bool :=
  match f.deciding? e with
  | some d => e.severity.detail ≤ d.level
  | none => false

end Filter

end HostedFs.Log
