import RouteAtlas.Disk.Path

set_option autoImplicit false

namespace RouteAtlas

inductive Entry where
  | file (content : ByteArray)
  | dir (entries : List (String × Entry))

namespace Entry

def child? (name : String) : Entry → Option Entry
  | .dir entries => (entries.find? (·.1 == name)).map (·.2)
  | .file _ => none

def isDir : Entry → Bool
  | .dir _ => true
  | .file _ => false

def isFile : Entry → Bool
  | .file _ => true
  | .dir _ => false

mutual
/-- The files below an entry, as locations relative to it. Directories whose names do not pass
`enter` are left out. -/
def files (enter : String → Bool) : Entry → List Location
  | .file _ => [[]]
  | .dir entries => filesIn enter entries

def filesIn (enter : String → Bool) : List (String × Entry) → List Location
  | [] => []
  | (name, e) :: rest =>
    (if e.isFile || enter name then (files enter e).map (name :: ·) else []) ++
      filesIn enter rest
end

def setChild (name : String) (entry : Entry) : List (String × Entry) → List (String × Entry)
  | [] => [(name, entry)]
  | (n, e) :: rest => if n = name then (n, entry) :: rest else (n, e) :: setChild name entry rest

def put (entry : Entry) : Location → Entry → Entry
  | [], _ => entry
  | name :: rest, .dir entries =>
    let below := ((entries.find? (·.1 == name)).map (·.2)).getD (.dir [])
    .dir (setChild name (put entry rest below) entries)
  | name :: rest, .file _ => .dir [(name, put entry rest (.dir []))]

end Entry

inductive ReadError where
  | notFound
  | notDirectory
  | isDirectory
  | notUtf8
  deriving DecidableEq, Repr

def ReadError.message : ReadError → String
  | .notFound => "No such file or directory (os error 2)"
  | .notDirectory => "Not a directory (os error 20)"
  | .isDirectory => "Is a directory (os error 21)"
  | .notUtf8 => "stream did not contain valid UTF-8"

structure Disk where
  cwd : Location
  root : Entry

namespace Disk

def entry? (d : Disk) (l : Location) : Option Entry :=
  l.foldl (fun e name => e.bind (Entry.child? name)) (some d.root)

def step : List Entry → List Char → Except ReadError (List Entry)
  | [], _ => .error .notFound
  | here :: above, name =>
    match here with
    | .file _ => .error .notDirectory
    | .dir _ =>
      if name = [] || name = ['.'] then .ok (here :: above)
      else if name = ['.', '.'] then .ok (if above.isEmpty then [here] else above)
      else
        match here.child? (String.ofList name) with
        | some e => .ok (e :: here :: above)
        | none => .error .notFound

/-- The entries from the root down to a location, the last one first. -/
def descend (d : Disk) (l : Location) : Except ReadError (List Entry) :=
  l.foldlM (fun es name => step es name.toList) [d.root]

def follow (d : Disk) (path : String) : Except ReadError Entry := do
  if path.isEmpty then .error .notFound
  else
    let base ← if Path.isAbsolute path then pure [d.root] else d.descend d.cwd
    let cs := if Path.isAbsolute path then path.toList.drop 1 else path.toList
    let entries ← (Text.split '/' cs).foldlM step base
    match entries with
    | e :: _ => .ok e
    | [] => .error .notFound

def isDir (d : Disk) (path : String) : Bool :=
  match d.follow path with
  | .ok e => e.isDir
  | .error _ => false

def isFile (d : Disk) (path : String) : Bool :=
  match d.follow path with
  | .ok e => e.isFile
  | .error _ => false

def hasFile (d : Disk) (l : Location) : Bool :=
  match d.entry? l with
  | some e => e.isFile
  | none => false

def textOf : Entry → Except ReadError String
  | .dir _ => .error .isDirectory
  | .file content =>
    match String.fromUTF8? content with
    | some s => .ok s
    | none => .error .notUtf8

def filesBelow (d : Disk) (enter : String → Bool) (l : Location) : List Location :=
  match d.entry? l with
  | some e => (e.files enter).map (l ++ ·)
  | none => []

def fileCount (d : Disk) : Nat := (d.root.files fun _ => true).length

def readText (d : Disk) (path : String) : Except ReadError String := do
  let e ← d.follow path
  textOf e

def readAt (d : Disk) (l : Location) : Except ReadError String := do
  let es ← d.descend l
  match es with
  | e :: _ => textOf e
  | [] => .error .notFound

def locate (d : Disk) (path : String) : Location := Path.locate d.cwd path

def put (d : Disk) (l : Location) (entry : Entry) : Disk := { d with root := Entry.put entry l d.root }

end Disk

end RouteAtlas
