import HostedFs.Data.Tree

/-! # Destinations of options

    A slot is where the value of an option goes: a flag, a text or an integer
    of a fixed kind.
-/

namespace HostedFs.Options

/-- A typed destination with its present value. -/
inductive Slot
  | flag (value : Bool)
  | text (value : String)
  | int (kind : IntKind) (bits : kind.Bits)
  deriving DecidableEq, Repr

namespace Slot

/-- The slot is a flag. -/
def isFlag : Slot → Bool
  | .flag _ => true
  | _ => false

/-- What the slot holds. -/
def toTree : Slot → Tree
  | .flag b => .flag b
  | .text s => .text s
  | .int k bits => .int (k.toInt bits)

/-- An integer can be written to a slot of the kind when it is one of the
    signed or one of the unsigned integers of that width. -/
def Accepts (k : IntKind) (n : Int) : Prop :=
  -k.width.half ≤ n ∧ n < 2 * k.width.half

instance (k : IntKind) (n : Int) : Decidable (Accepts k n) :=
  inferInstanceAs (Decidable (_ ∧ _))

end Slot

end HostedFs.Options
