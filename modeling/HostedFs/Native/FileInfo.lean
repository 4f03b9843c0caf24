/-! # File information

    The record that the native side keeps for an open file. An implementation
    gives it a handle; the host sets its bit for direct input and output.
-/

namespace HostedFs

/-- What the native side knows of an open file. -/
structure FileInfo where
  flags : Int32 := 0
  fhOld : UInt64 := 0
  writepage : Int32 := 0
  bits : UInt32 := 0
  fh : UInt64 := 0
  lockOwner : UInt64 := 0
  deriving DecidableEq, Repr

namespace FileInfo

/-- The bit for direct input and output. -/
def directIoBit : UInt32 :=
  1

/-- Input and output go past the page cache. -/
def directIo (fi : FileInfo) : Bool :=
  fi.bits &&& directIoBit != 0

/-- Sets or clears direct input and output. -/
def setDirectIo (fi : FileInfo) (on : Bool) : FileInfo :=
  { fi with bits := if on then fi.bits ||| directIoBit else fi.bits &&& ~~~directIoBit }

end FileInfo

end HostedFs
