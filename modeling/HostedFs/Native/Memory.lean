import HostedFs.Errno
import HostedFs.Native.FileInfo
import HostedFs.Stat.Layout
import HostedFs.Text.Utf8

/-! # Native memory

    What the native side passes by address: texts that end at a NUL, buffers
    of bytes, and records. An address can be null.
-/

namespace HostedFs

/-! ## Texts -/

/-- The bytes at an address, as far as they matter; `none` for null. -/
abbrev NativeText :=
  Option (List UInt8)

namespace NativeText

/-- The bytes before the first NUL. -/
def untilNul (bs : List UInt8) : List UInt8 :=
  bs.takeWhile (· ≠ 0)

/-- The text at an address. Null is an invalid argument, and bytes that are
    not UTF-8 are no text. -/
def read : NativeText → Except Errno String
  | none => .error .invalid
  | some bs =>
    match Text.ofBytes? (untilNul bs) with
    | some s => .ok s
    | none => .error .illegalSequence

end NativeText

/-! ## Buffers -/

/-- A buffer for bytes. A null one still has a size. -/
inductive Buffer
  | null (size : Nat)
  | block (bytes : List UInt8)
  deriving DecidableEq, Repr

namespace Buffer

/-- The size that the native side states. -/
def size : Buffer → Nat
  | .null size => size
  | .block bytes => bytes.length

/-- The bytes that can be read and written. -/
def bytes : Buffer → List UInt8
  | .null _ => []
  | .block bytes => bytes

/-- The buffer with other bytes, if it has any. -/
def withBytes : Buffer → List UInt8 → Buffer
  | .null size, _ => .null size
  | .block _, bytes => .block bytes

/-- Overwrites a stretch of bytes. What would lie beyond the end is left out. -/
def overwrite (old : List UInt8) (offset : Nat) (new : List UInt8) : List UInt8 :=
  old.take offset ++ new.take (old.length - offset) ++ old.drop (offset + new.length)

/-- Puts bytes at a place. -/
def put (b : Buffer) (offset : Nat) (new : List UInt8) : Buffer :=
  b.withBytes (overwrite b.bytes offset new)

/-- Puts a text that ends at a NUL: as many of its bytes as leave room for the
    NUL, then the NUL. Nothing is put where there is no room at all. -/
def putText (b : Buffer) (s : String) : Buffer :=
  match b.bytes with
  | [] => b
  | _ :: room => b.put 0 ((Text.bytes s).take room.length ++ [0])

end Buffer

/-! ## Regions -/

/-- An entry as a native directory listing takes it. -/
structure DirEntry where
  name : List UInt8
  stat : Option PosixStat
  next : Int64
  deriving DecidableEq, Repr

/-- The memory that a request may change. -/
inductive Memory
  /-- None. -/
  | nothing
  /-- A record for the metadata of a file, `none` for null. -/
  | stat (record : Option PosixStat)
  /-- A record for the metadata of a filesystem, `none` for null. -/
  | statvfs (record : Option StatvfsRecord)
  | buffer (b : Buffer)
  /-- File information, `none` for null. -/
  | file (info : Option FileInfo)
  /-- The entries that a directory listing was offered. -/
  | entries (offered : List DirEntry)
  deriving DecidableEq, Repr

end HostedFs
