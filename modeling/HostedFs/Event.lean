import HostedFs.Host.Error
import HostedFs.Host.Record
import HostedFs.Options.Error
import HostedFs.Registry.Basic
import HostedFs.Signal.Bridge

/-! # Events

    What the library reports besides its answers: a cause for each event, and
    from it the severity, the part of the program that reports it, the message
    and the named fields that a log shows.
-/

namespace HostedFs

/-- How severe an event is. -/
inductive Severity
  | error
  | warning
  | info
  | debug
  deriving DecidableEq, Repr

/-- The name of a severity in a log. -/
def Severity.render : Severity → String
  | .error => "ERROR"
  | .warning => "WARN"
  | .info => "INFO"
  | .debug => "DEBUG"

/-- The severities in ascending order of detail, counted from one. -/
def Severity.detail : Severity → Nat
  | .error => 1
  | .warning => 2
  | .info => 3
  | .debug => 4

/-- The value of a field. A plain text is quoted where a log shows it in a
    line; a rendered value is shown as it is. -/
inductive FieldValue
  | text (value : String)
  | rendered (value : String)
  deriving DecidableEq, Repr

/-- Something that happened. -/
inductive Event
  /-- The probe is about to mount. -/
  | starting (mountpoint : String) (options : List String)
  /-- The probe's filesystem was told that it is mounted. -/
  | probeReady
  /-- The probe's filesystem was told that it is gone. -/
  | probeReleased
  /-- The probe's mount has ended well. -/
  | probeUnmounted
  /-- The native library was found and opened. -/
  | libraryLoaded (name : String)
  /-- A candidate for the native library does not open. -/
  | candidateRejected (name : String) (reason : String)
  /-- The native event loop is about to run. -/
  | loopEntered (arguments : List String) (token : Token)
  /-- The native side has mounted the filesystem. -/
  | mounted (mountpoint : Option String) (granted : Capabilities)
  /-- The native side has told that the filesystem is gone. -/
  | destroyed
  /-- An unmount was asked for that the stage of the mount does not allow. -/
  | unmountIgnored (state : MountState)
  /-- The native side is about to unmount. -/
  | unmounting (mountpoint : Option String)
  /-- The event loop of a mount has ended well. -/
  | loopExited (mountpoint : String)
  /-- An implementation panicked; the text of the panic, if it has one. -/
  | operationPanicked (operation : String) (panic : Option String)
  /-- A directory entry cannot be passed on, for its name contains a NUL. -/
  | entryWithNul (path : String)
  /-- The native library could not unmount. -/
  | unmountFailed (mountpoint : Option String)
  /-- A listener read signals, the last of them this one. -/
  | signalReceived (signal : Signal)
  /-- A listener took the word to stop. -/
  | listenerDisarmed
  /-- An unmount asked for by a signal failed; the next signal tries again. -/
  | waitingForSignal
  /-- A mount failed. -/
  | mountFailed (mountpoint : String) (error : HostError)
  /-- The mountpoint cannot be read off the arguments. -/
  | mountpointUnknown (error : Options.Error)
  /-- A mount goes on without listening for signals. -/
  | notListening (error : String)
  /-- No candidate for the native library could be loaded. -/
  | libraryMissing (tried : List String)
  /-- The native side called for a mount without naming one. -/
  | orphanedRequest
  /-- The native side called for a mount that the registry does not know. -/
  | unregisteredToken (address : Nat)
  deriving DecidableEq, Repr

namespace Event

/-- How severe an event is. -/
def severity : Event → Severity
  | .operationPanicked .. | .mountFailed .. | .orphanedRequest | .unregisteredToken .. => .error
  | .entryWithNul .. | .unmountFailed .. | .waitingForSignal | .mountpointUnknown ..
  | .notListening .. | .libraryMissing .. => .warning
  | .starting .. | .probeReady | .probeReleased | .probeUnmounted | .libraryLoaded .. | .mounted ..
  | .unmounting .. | .signalReceived .. | .loopExited .. => .info
  | .candidateRejected .. | .loopEntered .. | .destroyed | .unmountIgnored .. | .listenerDisarmed =>
    .debug

/-- The event tells of something that went wrong. -/
def isProblem (e : Event) : Bool :=
  e.severity == .error || e.severity == .warning

/-- The part of the program that reports an event. -/
def origin : Event → String
  | .starting .. | .probeReady | .probeReleased | .probeUnmounted => "fusehost_probe"
  | .libraryLoaded .. | .candidateRejected .. | .libraryMissing .. => "fusehost::native::library"
  | .loopEntered .. | .mounted .. | .destroyed | .unmountIgnored .. | .unmounting ..
  | .loopExited .. | .unmountFailed .. | .mountFailed .. | .mountpointUnknown ..
  | .notListening .. => "fusehost::host"
  | .signalReceived .. | .listenerDisarmed | .waitingForSignal => "fusehost::signal"
  | .operationPanicked .. | .entryWithNul .. | .orphanedRequest | .unregisteredToken .. =>
    "fusehost::dispatch"

/-- The message of an event, without its fields. -/
def message : Event → String
  | .starting .. => "starting fusehost probe"
  | .probeReady => "probe filesystem ready"
  | .probeReleased => "probe filesystem released"
  | .probeUnmounted => "probe unmounted cleanly"
  | .libraryLoaded .. => "loaded FUSE library"
  | .candidateRejected .. => "FUSE library candidate rejected"
  | .loopEntered .. => "entering native event loop"
  | .mounted .. => "filesystem mounted"
  | .destroyed => "filesystem destroyed"
  | .unmountIgnored .. => "unmount ignored"
  | .unmounting .. => "unmounting"
  | .loopExited .. => "native event loop exited"
  | .operationPanicked .. => "filesystem operation panicked"
  | .entryWithNul .. => "skipping directory entry with an embedded NUL"
  | .unmountFailed .. => "unmount failed"
  | .signalReceived .. => "received shutdown signal, unmounting"
  | .listenerDisarmed => "signal listener disarmed"
  | .waitingForSignal => "unmount after signal failed; waiting for another signal"
  | .mountFailed .. => "mount failed"
  | .mountpointUnknown .. => "cannot determine mountpoint from arguments"
  | .notListening .. =>
    "could not install signal listener; mount will not unmount on SIGINT/SIGTERM"
  | .libraryMissing .. => "no FUSE library found"
  | .orphanedRequest => "native callback without a registered host, aborting"
  | .unregisteredToken .. => "dispatch for unregistered token, aborting"

/-- What stands for the text of a panic that has none. -/
def unreadablePanic : String :=
  "<non-string panic payload>"

/-- A list of strings as messages show it. -/
def quotedList (items : List String) : String :=
  "[" ++ ", ".intercalate (items.map Text.quoted) ++ "]"

/-- The named fields of an event, in their order. -/
def fields : Event → List (String × FieldValue)
  | .starting mountpoint options =>
    [("mountpoint", .rendered mountpoint), ("options", .rendered (quotedList options))]
  | .libraryLoaded name => [("library", .rendered name)]
  | .candidateRejected name reason => [("library", .rendered name), ("error", .rendered reason)]
  | .loopEntered arguments token =>
    [("args", .rendered (quotedList arguments)), ("token", .rendered token.render)]
  | .mounted mountpoint granted =>
    [("mountpoint", .rendered (Text.quotedOption mountpoint)), ("caps", .rendered granted.render)]
  | .unmountIgnored state => [("state", .rendered state.render)]
  | .unmounting mountpoint => [("mountpoint", .rendered (Text.quotedOption mountpoint))]
  | .loopExited mountpoint => [("mountpoint", .text mountpoint)]
  | .operationPanicked operation panic =>
    [("op", .text operation), ("panic", .text (panic.getD unreadablePanic))]
  | .entryWithNul path => [("path", .text path)]
  | .unmountFailed mountpoint => [("mountpoint", .rendered (Text.quotedOption mountpoint))]
  | .signalReceived signal => [("signal", .text signal.name)]
  | .probeReady | .probeReleased | .probeUnmounted | .destroyed | .listenerDisarmed
  | .waitingForSignal | .orphanedRequest => []
  | .mountFailed mountpoint error =>
    [("mountpoint", .text mountpoint), ("error", .rendered error.message)]
  | .mountpointUnknown error => [("error", .rendered error.message)]
  | .notListening error => [("error", .rendered error)]
  | .libraryMissing tried =>
    [("tried", .rendered (quotedList tried))]
  | .unregisteredToken address => [("token", .rendered s!"Token({address})")]

/-- The names by which a filter can ask for fields. The message is one of them. -/
def fieldNames (e : Event) : List String :=
  "message" :: e.fields.map Prod.fst

/-- The line that a log shows for an event, without its time and origin. -/
def line (e : Event) : String :=
  let value : FieldValue → String
    | .text s => Text.quoted s
    | .rendered s => s
  " ".intercalate
    (e.severity.render :: e.message :: e.fields.map fun (name, v) => name ++ "=" ++ value v)

end Event

end HostedFs
