-- SUMMARY: File paths with slashes: cleaning, joining and the home directory.

/-!
# File paths
-/
namespace ControlDependence.Files

/-- Resolves the parts of a path one by one: an empty part and `.` stand for nothing, and
`..` takes back the part before it. -/
def resolveParts (rooted : Bool) : List String → (kept : List String) → List String
  | [], kept => kept.reverse
  | p :: ps, kept =>
    if p = "" || p = "." then resolveParts rooted ps kept
    else if p = ".." then
      match kept with
      | last :: rest =>
        if last = ".." then resolveParts rooted ps (p :: kept) else resolveParts rooted ps rest
      | [] => resolveParts rooted ps (if rooted then [] else [p])
    else resolveParts rooted ps (p :: kept)

/-- The shortest path of the same meaning. -/
def clean (path : String) : String :=
  let rooted := path.startsWith "/"
  let parts := "/".intercalate (resolveParts rooted (path.splitOn "/") [])
  if rooted then "/" ++ parts else if parts.isEmpty then "." else parts

/-- A path below a directory. -/
def join (dir path : String) : String :=
  if dir.isEmpty then if path.isEmpty then "" else clean path
  else clean (dir ++ "/" ++ path)

/-- The directory that a path is in. -/
def parent (path : String) : String := join path ".."

/-- A path with a leading tilde stands for one below the home directory. -/
def expandHome (home path : String) : String :=
  if path.startsWith "~" then join home (path.drop 1).toString else path

/-- The full path of one that may start at a directory. -/
def absolute (here path : String) : String :=
  if path.startsWith "/" then clean path else join here path

end ControlDependence.Files
