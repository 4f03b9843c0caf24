/-! # Optional features of a mount

    The native library offers features as bits of a word. A mount asks for
    features; what is both offered and asked for is granted, and its bits are
    handed back as wanted.
-/

namespace HostedFs

/-- A set of optional features: those a mount asks for, or those granted. -/
structure Capabilities where
  /-- Path look-ups ignore case. -/
  caseInsensitive : Bool := false
  /-- Directory listings carry whole metadata. -/
  readdirPlus : Bool := false
  /-- Access is checked before a deletion. -/
  deleteAccess : Bool := false
  /-- Truncation is a flag of `open` and no separate request. -/
  openTrunc : Bool := false
  /-- Metadata records carry file flags. Wanted whenever it is offered. -/
  statEx : Bool := false
  deriving DecidableEq, Repr

/-- The set as messages show it. -/
def Capabilities.render (c : Capabilities) : String :=
  "Capabilities \x7b case_insensitive: " ++ toString c.caseInsensitive ++ ", readdir_plus: " ++
    toString c.readdirPlus ++ ", delete_access: " ++ toString c.deleteAccess ++ ", open_trunc: " ++
    toString c.openTrunc ++ ", stat_ex: " ++ toString c.statEx ++ " \x7d"

/-- The flavour of the native library. -/
inductive Platform
  | posix
  | macos
  | windows
  deriving DecidableEq, Repr

namespace Platform

/-- The flavour that the requests of this library are made for. -/
def current : Platform :=
  .posix

/-- The flavour of a name. -/
def ofName? : String → Option Platform
  | "posix" => some .posix
  | "macos" => some .macos
  | "windows" => some .windows
  | "current" => some current
  | _ => none

end Platform

namespace Offer

/-! ## Bits of the offered word -/

def openTrunc : UInt32 :=
  (1 : UInt32) <<< 3

def readdirPlus : UInt32 :=
  (1 : UInt32) <<< 21

def statEx : UInt32 :=
  (1 : UInt32) <<< 23

def deleteAccess : UInt32 :=
  (1 : UInt32) <<< 24

def caseInsensitive : UInt32 :=
  (1 : UInt32) <<< 29

/-- The word offers the feature of a bit. -/
def has (offered bit : UInt32) : Bool :=
  offered &&& bit != 0

/-- The bit itself if it is granted. -/
def wanted (granted : Bool) (bit : UInt32) : UInt32 :=
  if granted then bit else 0

end Offer

/-- The enabling bit for look-ups that ignore case, which needs no offer. -/
def enableCaseInsensitive : UInt32 :=
  1

/-- What a negotiation settles. -/
structure Negotiation where
  /-- Bits to be added to those wanted of the library. -/
  want : UInt32
  /-- Bits to be enabled without an offer. -/
  enable : UInt32
  granted : Capabilities
  deriving DecidableEq, Repr

/-- Takes up the offer of a feature: it is granted if it is asked for and its bit is
    offered, and then the bit is added to those wanted so far. -/
def Offer.take (offered : UInt32) (asked : Bool) (bit : UInt32) : StateM UInt32 Bool := do
  let granted := asked && has offered bit
  if granted then modify (· ||| bit)
  return granted

/-- Goes through the features of a platform: what is enabled without an offer, and the
    features granted. The state is what is wanted so far. -/
def takeOffers (platform : Platform) (offered : UInt32) (asked : Capabilities) :
    StateM UInt32 (UInt32 × Capabilities) := do
  let openTrunc ← Offer.take offered asked.openTrunc Offer.openTrunc
  match platform with
  | .posix => return (0, { openTrunc })
  | .macos =>
    if asked.caseInsensitive then
      return (enableCaseInsensitive, { openTrunc, caseInsensitive := true })
    else return (0, { openTrunc })
  | .windows =>
    let statEx ← Offer.take offered true Offer.statEx
    let caseInsensitive ← Offer.take offered asked.caseInsensitive Offer.caseInsensitive
    let readdirPlus ← Offer.take offered asked.readdirPlus Offer.readdirPlus
    let deleteAccess ← Offer.take offered asked.deleteAccess Offer.deleteAccess
    return (0, { openTrunc, statEx, caseInsensitive, readdirPlus, deleteAccess })

/-- Settles which of the features asked for are granted out of those offered. -/
def negotiate (platform : Platform) (offered : UInt32) (asked : Capabilities) : Negotiation :=
  let ((enable, granted), want) := (takeOffers platform offered asked).run 0
  { want, enable, granted }

/-! ## What a negotiation comes to -/

/-- After an offer it goes on with the answer, and with what is wanted then. -/
theorem Offer.run_take_bind {α : Type} (offered : UInt32) (asked : Bool) (bit want : UInt32)
    (rest : Bool → StateM UInt32 α) :
    (take offered asked bit >>= rest).run want =
      (rest (asked && has offered bit)).run (want ||| wanted (asked && has offered bit) bit) := by
  have htake : (take offered asked bit).run want =
      (asked && has offered bit, want ||| wanted (asked && has offered bit) bit) := by
    unfold take wanted
    cases asked && has offered bit with
    | false => exact congrArg (Prod.mk false) UInt32.or_zero.symm
    | true => rfl
  show (fun out : Bool × UInt32 => (rest out.1).run out.2) ((take offered asked bit).run want) = _
  rw [htake]

theorem negotiate_posix (offered : UInt32) (asked : Capabilities) :
    negotiate .posix offered asked =
      let openTrunc := asked.openTrunc && Offer.has offered Offer.openTrunc
      { want := Offer.wanted openTrunc Offer.openTrunc
        enable := 0
        granted := { openTrunc } } := by
  simp only [negotiate, takeOffers, Offer.run_take_bind, UInt32.zero_or]
  rfl

theorem negotiate_macos (offered : UInt32) (asked : Capabilities) :
    negotiate .macos offered asked =
      let openTrunc := asked.openTrunc && Offer.has offered Offer.openTrunc
      { want := Offer.wanted openTrunc Offer.openTrunc
        enable := Offer.wanted asked.caseInsensitive enableCaseInsensitive
        granted := { openTrunc, caseInsensitive := asked.caseInsensitive } } := by
  simp only [negotiate, takeOffers, Offer.run_take_bind, UInt32.zero_or]
  cases asked.caseInsensitive with
  | false => rfl
  | true => rfl

theorem negotiate_windows (offered : UInt32) (asked : Capabilities) :
    negotiate .windows offered asked =
      let openTrunc := asked.openTrunc && Offer.has offered Offer.openTrunc
      let statEx := Offer.has offered Offer.statEx
      let caseInsensitive := asked.caseInsensitive && Offer.has offered Offer.caseInsensitive
      let readdirPlus := asked.readdirPlus && Offer.has offered Offer.readdirPlus
      let deleteAccess := asked.deleteAccess && Offer.has offered Offer.deleteAccess
      { want := Offer.wanted openTrunc Offer.openTrunc ||| Offer.wanted statEx Offer.statEx |||
          Offer.wanted caseInsensitive Offer.caseInsensitive |||
          Offer.wanted readdirPlus Offer.readdirPlus |||
          Offer.wanted deleteAccess Offer.deleteAccess
        enable := 0
        granted := { openTrunc, statEx, caseInsensitive, readdirPlus, deleteAccess } } := by
  simp only [negotiate, takeOffers, Offer.run_take_bind, UInt32.zero_or, Bool.true_and]
  rfl

end HostedFs
