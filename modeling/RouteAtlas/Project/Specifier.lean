import RouteAtlas.Disk.Tree

set_option autoImplicit false

/-!
# Import specifiers

What a specifier leads to: the first existing file among the candidates for it. A relative
specifier is taken from the directory of the importing file. Any other goes through the path
mappings of the project in order, and then through its base directory.
-/
namespace RouteAtlas

/-- The mappings in force for specifiers that are neither relative nor absolute. -/
structure ImportMap where
  baseUrl : Option String := none
  /-- Patterns and their targets; the first one that matches and leads to a file wins. -/
  paths : List (String × List String) := []

namespace ImportMap

def sourceOf : List (String × String) :=
  [("js", "ts"), ("js", "tsx"), ("jsx", "tsx"), ("mjs", "mts"), ("cjs", "cts")]

/-- The paths that a written path may stand for, the preferred ones first: itself, with an
extension added, as a directory with an index file, and the source of a compiled file. -/
def spellings (path : String) : List String :=
  path :: (Path.sourceExtensions.map fun ext => path ++ "." ++ ext) ++
    (Path.sourceExtensions.map fun ext => Path.join path ("index." ++ ext)) ++
    (sourceOf.filter fun p => Path.extension? path = some p.1).map fun p =>
      Path.withExtension path p.2

def candidates (cwd : Location) (path : String) : List Location :=
  (spellings path).map (Path.locate cwd)

def probe? (disk : Disk) (path : String) : Option Location :=
  (candidates disk.cwd path).find? disk.hasFile

/-- What the star of a pattern stands for in a specifier. The two ends of the pattern do not
overlap; a pattern without a star has to equal the specifier. -/
def capture? (pattern specifier : List Char) : Option (List Char) :=
  match Text.splitFirst? '*' pattern with
  | some (before, after) => (Text.afterLead? before specifier).bind (Text.beforeTail? after)
  | none => if pattern = specifier then some [] else none

def mapped (m : ImportMap) (specifier : String) : List String :=
  m.paths.flatMap fun (pattern, targets) =>
    match capture? pattern.toList specifier.toList with
    | some captured =>
      targets.map fun target => String.ofList (Text.replaceFirst '*' captured target.toList)
    | none => []

def isRelative (specifier : String) : Bool :=
  "./".toList.isPrefixOf specifier.toList || "../".toList.isPrefixOf specifier.toList ||
    specifier = "." || specifier = ".."

def targets (m : ImportMap) (fromFile specifier : String) : List String :=
  if isRelative specifier then
    ((Path.parent? fromFile).map (Path.join · specifier)).toList
  else if Path.isAbsolute specifier then [specifier]
  else m.mapped specifier ++ (m.baseUrl.map (Path.join · specifier)).toList

def resolve? (m : ImportMap) (disk : Disk) (fromFile specifier : String) : Option Location :=
  (m.targets fromFile specifier).findSome? (probe? disk)

/-- Enters the targets of a pattern; a pattern that is known keeps its place. -/
def setPath (pattern : String) (targets : List String) :
    List (String × List String) → List (String × List String)
  | [] => [(pattern, targets)]
  | (p, ts) :: rest =>
    if p = pattern then (p, targets) :: rest else (p, ts) :: setPath pattern targets rest

end ImportMap

end RouteAtlas
