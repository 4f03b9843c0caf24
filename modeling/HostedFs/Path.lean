/-! # Paths

    A path is a text with slashes between its parts. Parts that are empty or a
    single dot lead nowhere; two dots lead back.
-/

namespace HostedFs.Path

/-- The path starts at the root. -/
def isAbsolute (path : String) : Bool :=
  path.startsWith "/"

/-- The parts of a path that lead somewhere. -/
def parts (path : String) : List String :=
  (path.splitOn "/").filter fun part => part != "" && part != "."

/-- A path from the directory of another path. An absolute one stands for
    itself. -/
def join (directory path : String) : String :=
  if isAbsolute path || directory.isEmpty then path
  else if directory.endsWith "/" then directory ++ path
  else directory ++ "/" ++ path

/-- Some parts of a path without those at their end that lead nowhere. -/
def withoutIdle (names : List String) : List String :=
  (names.reverse.dropWhile fun name => name == "" || name == ".").reverse

/-- A path without its last part and what leads nowhere around it. What leads
    nowhere further ahead stays. -/
def directory (path : String) : String :=
  match withoutIdle (withoutIdle (path.splitOn "/")).dropLast with
  | [] => if isAbsolute path then "/" else ""
  | names => "/".intercalate names

end HostedFs.Path
