import RouteAtlas.Project.CompilerConfig
import RouteAtlas.Project.Declaration
import RouteAtlas.Script.Parse

set_option autoImplicit false

namespace RouteAtlas

open Script

structure SourceFile where
  id : Nat
  location : Location
  relPath : String
  module : Module
  index : ModuleIndex

namespace SourceFile

def path (f : SourceFile) : String := f.location.text

def lineOf (f : SourceFile) (span : Span) : Nat := f.module.lineOf span

def binding? (f : SourceFile) (name : String) : Option Nat := f.index.bindings.lookup name

def export? (f : SourceFile) (name : String) : Option Nat := f.index.exports.lookup name

end SourceFile

structure Project where
  root : Location
  imports : ImportMap
  files : List SourceFile := []
  byPath : List (Location × Nat) := []
  decls : List Declaration := []

namespace Project

def ignoredDirs : List String :=
  ["node_modules", ".git", ".next", ".turbo", ".vercel", "dist", "build", "out", "coverage",
    ".output"]

/-- The path of a location below the root. A location elsewhere is written whole, after a
slash. -/
def relPath (root l : Location) : String :=
  if root.isPrefixOf l then
    String.ofList (Text.join '/' ((l.drop root.length).map String.toList))
  else "/" ++ l.text

def fileAt? (p : Project) (l : Location) : Option Nat := p.byPath.lookup l

def fileId? (p : Project) (disk : Disk) (path : String) : Option Nat :=
  p.fileAt? (disk.locate path)

inductive SkipReason where
  | unreadable (reason : ReadError)
  | malformed

def SkipReason.message (path : String) : SkipReason → String
  | .unreadable reason => s!"skipping file: failed to read {path}: {reason.message}"
  | .malformed => s!"skipping file: parse error in {path}"

def parseAt (disk : Disk) (l : Location) : Except SkipReason Module :=
  match disk.readAt l with
  | .error reason => .error (.unreadable reason)
  | .ok text =>
    match parseModule? (Dialect.ofExtension (Path.extension? l.text)) text with
    | some m => .ok m
    | none => .error .malformed

def add (p : Project) (l : Location) (m : Module) : Project :=
  let id := p.files.length
  let (decls, index) := ModuleIndex.ofItems id p.decls m.items
  { p with
    files := p.files ++ [⟨id, l, relPath p.root l, m, index⟩]
    byPath := (l, id) :: p.byPath
    decls := decls }

def loadAt (disk : Disk) (p : Project) (l : Location) : Logged (Project × Option Nat) :=
  match p.fileAt? l with
  | some id => pure (p, some id)
  | none =>
    match parseAt disk l with
    | .ok m => pure (p.add l m, some p.files.length)
    | .error reason => do
      Logged.warn (reason.message l.text)
      return (p, none)

/-- The file that a path names, which is loaded first if it is not yet. -/
def getOrLoad (disk : Disk) (p : Project) (path : String) : Logged (Project × Option Nat) :=
  p.loadAt disk (disk.locate path)

def sources (disk : Disk) (root : Location) : List Location :=
  ((disk.filesBelow (fun name => !ignoredDirs.contains name) root).filter fun l =>
    Path.isSource l.text).mergeSort Location.le

def loadAll (disk : Disk) : Project → List Location → Logged Project
  | p, [] => pure p
  | p, l :: rest => do
    let (p, _) ← p.loadAt disk l
    loadAll disk p rest

def loadFrom (disk : Disk) (root : Location) : Logged Project := do
  let imports ← ImportMap.ofProject disk root.text
  let p ← loadAll disk { root, imports } (sources disk root)
  Logged.debug (s!"loaded {p.files.length} source files ({p.decls.length} module-scope " ++
    s!"declarations) from {root.text}")
  return p

structure RootNotFound where
  path : String

def RootNotFound.message (e : RootNotFound) : String :=
  s!"project root not found or not a directory: {e.path}"

def load (disk : Disk) (root : String) : Except RootNotFound (Logged Project) :=
  if disk.isDir root then .ok (loadFrom disk (disk.locate root)) else .error ⟨root⟩

def resolveImport? (p : Project) (disk : Disk) (fromFile : Nat) (specifier : String) :
    Option Nat := do
  let f ← p.files[fromFile]?
  let l ← p.imports.resolve? disk f.path specifier
  p.fileAt? l

def exported? (p : Project) (file : Nat) (name : String) : Option Declaration := do
  let f ← p.files[file]?
  let id ← f.export? name
  p.decls[id]?

def importedName? (p : Project) (file : Nat) (name : String) : Option String := do
  let f ← p.files[file]?
  let d ← p.decls[← f.binding? name]?
  match d.kind with
  | .imported _ (.named outer) => some outer
  | _ => none

def calls (p : Project) (keep : Call → Bool) : List (Nat × Call) :=
  p.files.flatMap fun f => (f.module.calls.filter keep).map (f.id, ·)

def callsIn (p : Project) (file : Nat) (keep : Call → Bool) : List Call :=
  ((p.files[file]?).map fun f => f.module.calls.filter keep).getD []

end Project

end RouteAtlas
