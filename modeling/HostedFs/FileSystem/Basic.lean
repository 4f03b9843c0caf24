import HostedFs.FileSystem.Call

/-! # Implementations of a filesystem

    An implementation serves one call at a time from its state. It may ask
    back before it answers; every question is answered by yes or no, and the
    state may have changed meanwhile.
-/

namespace HostedFs

/-- The course of one call: it is done with a result, or asks something and
    goes on with the answer. -/
inductive Exchange (σ Q R : Type)
  | done (result : R) (state : σ)
  | ask (question : Q) (state : σ) (resume : Bool → σ → Exchange σ Q R)

namespace Exchange

variable {σ Q R τ : Type}

/-- Plays an exchange to its end. The one who answers keeps a state, too. -/
def run (answer : Q → τ → Bool × τ) : Exchange σ Q R → τ → R × σ × τ
  | .done result state, t => (result, state, t)
  | .ask question state resume, t =>
    let (yes, t) := answer question t
    run answer (resume yes state) t

/-- The same exchange where its state is a part of a greater one. -/
def within (view : τ → σ) (put : τ → σ → τ) : Exchange σ Q R → τ → Exchange τ Q R
  | .done result state, t => .done result (put t state)
  | .ask question state resume, t =>
    .ask question (put t state) fun yes t => within view put (resume yes (view t)) t

end Exchange

/-- An implementation with states of a type. It may look at who called. -/
structure FileSystem (σ : Type) where
  respond : Option Caller → (c : Call) → σ → Exchange σ c.Prompt c.Result

/-- The same implementation where its state is a part of a greater one. -/
def FileSystem.within {σ τ : Type} (view : τ → σ) (put : τ → σ → τ) (fs : FileSystem σ) :
    FileSystem τ where
  respond caller c t := (fs.respond caller c (view t)).within view put t

/-- The implementation that has no call. -/
def FileSystem.bare (σ : Type) : FileSystem σ where
  respond _ c s := .done c.unimplemented s

end HostedFs
