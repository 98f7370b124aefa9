import RouteAtlas.Json.Reader
import RouteAtlas.Json.Relaxed
import RouteAtlas.Log
import RouteAtlas.Project.Specifier

set_option autoImplicit false

/-!
# Compiler configurations

Path mappings come from the compiler configuration of a project. A configuration may extend
another one; its own entries win over inherited ones.
-/
namespace RouteAtlas

structure CompilerConfig where
  parent : Option String
  baseUrl : Option String
  paths : Option (List (String × List String))

namespace CompilerConfig

/-- The fields of a record that is given whole when it is written as a list. -/
def fields? (names : List String) (document : Json) : Option (List (Option Json)) :=
  match document with
  | .array items => if items.length = names.length then Json.recordFields? names document else none
  | _ => Json.recordFields? names document

def optional? {α : Type} (decode? : Json → Option α) : Option Json → Option (Option α)
  | none => some none
  | some .null => some none
  | some v => (decode? v).map some

def decodePaths? (document : Json) : Option (List (String × List String)) := do
  let members ← document.asObject?
  let entries ← members.mapM fun (pattern, targets) => do
    return (pattern, ← targets.asStrings?)
  return entries.foldl (fun ps (p, ts) => ImportMap.setPath p ts ps) []

def decodeOptions? (document : Json) :
    Option (Option String × Option (List (String × List String))) := do
  match ← fields? ["baseUrl", "paths"] document with
  | [baseUrl, paths] =>
    return (← optional? Json.asString? baseUrl, ← optional? decodePaths? paths)
  | _ => none

def decode? (document : Json) : Option CompilerConfig := do
  match ← fields? ["extends", "compilerOptions"] document with
  | [parent, options] =>
    let parent ← optional? Json.asString? parent
    let options ← optional? decodeOptions? options
    let (baseUrl, paths) := options.getD (none, none)
    return ⟨parent, baseUrl, paths⟩
  | _ => none

def shape : Json.Shape :=
  .record [("extends", .any), ("compilerOptions", .record [("baseUrl", .any), ("paths", .any)])]

def parse? (text : String) : Option CompilerConfig :=
  (Json.read? shape (Json.Relaxed.toPlain text.toList)).bind decode?

/-- The path of the configuration that one in the directory `dir` extends, if it is given by a
path. A name without extension stands for a `json` file. -/
def parentPath? (dir : String) (c : CompilerConfig) : Option String :=
  match c.parent with
  | some p =>
    if p.toList.head? = some '.' then
      let path := Path.join dir p
      some (if (Path.extension? path).isNone then Path.withExtension path "json" else path)
    else none
  | none => none

/-- Adds what a configuration in the directory `dir` says to inherited mappings. Targets are
relative to the base directory in force, or else to `dir`. -/
def extend (dir : Location) (inherited : ImportMap) (c : CompilerConfig) : ImportMap :=
  let baseUrl :=
    match c.baseUrl with
    | some b => some (Path.locate dir b).text
    | none => inherited.baseUrl
  let anchor := baseUrl.getD dir.text
  let paths := (c.paths.getD []).foldl
    (fun ps (p, ts) => ImportMap.setPath p (ts.map (Path.join anchor)) ps) inherited.paths
  ⟨baseUrl, paths⟩

end CompilerConfig

inductive ConfigError where
  | circular (path : String)
  | unusable

def ConfigError.message (path : String) : ConfigError → String
  | .circular through => s!"ignoring {path}: circular extends through {through}"
  | .unusable => s!"ignoring {path}"

namespace ImportMap

/-- Follows a chain of configurations, none twice. `base` is the answer when no steps are left. -/
def loadChain (disk : Disk) (base : Except ConfigError ImportMap) :
    Nat → List Location → String → Except ConfigError ImportMap
  | 0, _, _ => base
  | n + 1, visited, path => do
    let location := disk.locate path
    if visited.contains location then .error (.circular path)
    else
      match (disk.readAt location).toOption.bind CompilerConfig.parse? with
      | none => .error .unusable
      | some config =>
        let dir : Location := location.dropLast
        let inherited ←
          match CompilerConfig.parentPath? dir.text config with
          | some parent =>
            if disk.isFile parent then loadChain disk base n (location :: visited) parent
            else pure {}
          | none => pure {}
        return config.extend dir inherited

/-- The mappings of a configuration file. A chain leads from the first file through other files of
the disk, each at most once, so the steps are never used up. -/
def load (disk : Disk) (path : String) : Except ConfigError ImportMap :=
  loadChain disk (.error .unusable) (disk.fileCount + 2) [] path

def configNames : List String := ["tsconfig.json", "jsconfig.json"]

def ofFirst (disk : Disk) (root : String) : List String → Logged ImportMap
  | [] => pure {}
  | name :: rest =>
    let path := Path.join root name
    if disk.isFile path then
      match load disk path with
      | .ok m => do
        Logged.debug s!"using {path} ({m.paths.length} path mappings)"
        return m
      | .error e => do
        Logged.warn (e.message path)
        ofFirst disk root rest
    else ofFirst disk root rest

def ofProject (disk : Disk) (root : String) : Logged ImportMap := ofFirst disk root configNames

end ImportMap

end RouteAtlas
