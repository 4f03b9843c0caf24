import HostedFs.Data.Tree
import HostedFs.Event

/-! # Events as entries of a log

    An entry names the severity and the message of an event, and its fields.
-/

namespace HostedFs

/-- The text of a field, without quotes. -/
def FieldValue.plain : FieldValue → String
  | .text s => s
  | .rendered s => s

/-- The entry for an event. -/
def Event.toTree (e : Event) : Tree :=
  .table ([("level", .text e.severity.render), ("message", .text e.message)] ++
    e.fields.map fun (name, value) => (name, .text value.plain))

end HostedFs
