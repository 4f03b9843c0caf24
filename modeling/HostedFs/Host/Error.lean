import HostedFs.Text.Quoted

/-! # Why a mount fails -/

namespace HostedFs

/-- The reason for which a mount could not be made or did not end well. -/
inductive HostError
  /-- None of the candidates for the native library could be loaded. -/
  | libraryNotFound (tried : List String)
  /-- The library lacks an entry point. -/
  | missingSymbol (library symbol : String)
  /-- An argument for the native library contains a NUL character. -/
  | nulInArgument (argument : String)
  /-- The host is mounted, or about to be. -/
  | alreadyMounted
  /-- The native event loop ended with a status other than zero. -/
  | nativeFailure (status : Int32)
  deriving DecidableEq, Repr

/-- The text shown for an error. -/
def HostError.message : HostError → String
  | .libraryNotFound tried => "FUSE library not found (tried " ++ ", ".intercalate tried ++ ")"
  | .missingSymbol library symbol => "FUSE library " ++ library ++ " has no symbol " ++ symbol
  | .nulInArgument argument => "argument contains a NUL byte: " ++ Text.quoted argument
  | .alreadyMounted => "host is already mounted"
  | .nativeFailure status => s!"native mount failed with status {status.toInt}"

/-- The name of the case of an error. -/
def HostError.caseName : HostError → String
  | .libraryNotFound .. => "LibraryNotFound"
  | .missingSymbol .. => "MissingSymbol"
  | .nulInArgument .. => "NulInArgument"
  | .alreadyMounted => "AlreadyMounted"
  | .nativeFailure .. => "NativeFailure"

end HostedFs
