-- SUMMARY: Modules of packages, and the packages that patterns select.
import ControlDependence.Lowering.Routine
import ControlDependence.Pattern.Expr

/-!
# Modules

A pattern names one package, by its import path or its directory, or with dots a number of them.
One that names a directory fails when that is not there; any other may select nothing.
-/
namespace ControlDependence.Program

structure LoadedPackage where
  path : String
  routines : List Lowering.Routine
  deriving Repr, DecidableEq

structure Module where
  path : String
  packages : List LoadedPackage
  deriving Repr, DecidableEq

inductive LoadError where
  | noMatch (patterns : List String)
  | noDirectory (pattern directory : String)
  /-- What went wrong in the packages. -/
  | broken (messages : List String)
  deriving Repr, DecidableEq

namespace LoadError

def cause : LoadError → String
  | .noMatch ps => "no packages match " ++ " ".intercalate ps
  | .noDirectory p d => s!"-: pattern {p}: lstat {d}: no such file or directory"
  | .broken ms => "; ".intercalate ms

def message (e : LoadError) : String := "package load failed: " ++ e.cause

end LoadError

/-! ## Patterns -/

/-- The pattern that a text with three dots for anything stands for, up to the end. -/
def wildcard : List Char → Pattern.Expr
  | '.' :: '.' :: '.' :: t =>
    .concat (.loop 0 none (.char { items := [], negated := true })) (wildcard t)
  | c :: t => .concat (.char (.single c.toNat false)) (wildcard t)
  | [] => .boundary .textEnd

/-- Whether an import path fits a pattern. A slash before final dots may be missing with them. -/
def selects (pattern path : String) : Bool :=
  (Pattern.Expr.concat (.boundary .textStart) (wildcard pattern.toList)).isIn path
    || pattern == path ++ "/..."

namespace Module

/-- The import path that a directory of the module stands for. -/
def importPath (m : Module) (directory : String) : String :=
  if directory.isEmpty then m.path else m.path ++ "/" ++ directory

/-- The directory that a pattern names, relative to that of the module. -/
def directory? (pattern : String) : Option String :=
  if pattern == "." then some ""
  else if pattern.startsWith "./" then some (pattern.drop 2).toString
  else none

/-- Whether there are packages in or below a directory. -/
def hasDirectory (m : Module) (directory : String) : Bool :=
  m.packages.any fun p =>
    p.path == m.importPath directory || p.path.startsWith (m.importPath directory ++ "/")

/-- The packages that one pattern selects. -/
def selectOne (m : Module) (pattern : String) : Except LoadError (List LoadedPackage) :=
  match directory? pattern with
  | none => .ok (m.packages.filter fun p => selects pattern p.path)
  | some d =>
    let base := (d.dropSuffix "...").toString
    let parent := (base.dropSuffix "/").toString
    if d.endsWith "..." && (base.isEmpty || base.endsWith "/") && !m.hasDirectory parent then
      .error (.noDirectory pattern ("./" ++ base))
    else .ok (m.packages.filter fun p => selects (m.importPath d) p.path)

/-- The packages that any of the patterns selects, each once. -/
def select (m : Module) (patterns : List String) : Except LoadError (List LoadedPackage) := do
  let chosen ← patterns.mapM m.selectOne
  let paths := chosen.flatten.map (·.path)
  match m.packages.filter fun p => paths.contains p.path with
  | [] => .error (.noMatch patterns)
  | ps => return ps

end Module

/-- The routines of packages by name. -/
def routines (packages : List LoadedPackage) : List Lowering.Routine :=
  (packages.flatMap (·.routines)).mergeSort fun a b => decide (a.name ≤ b.name)

end ControlDependence.Program
