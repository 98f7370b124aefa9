import RouteAtlas.Disk.Tree
import RouteAtlas.Framework
import RouteAtlas.Json.Reader
import RouteAtlas.Log

set_option autoImplicit false

namespace RouteAtlas.Manifest

def shape : Json.Shape := .record [("dependencies", .any), ("devDependencies", .any)]

def packageNames? : Option Json → Option (List String)
  | none => some []
  | some (.object members) => some (members.map (·.1))
  | some _ => none

def packages? (text : String) : Option (List String) := do
  let document ← Json.read? shape text.toList
  match ← Json.recordFields? ["dependencies", "devDependencies"] document with
  | [dependencies, devDependencies] =>
    return (← packageNames? dependencies) ++ (← packageNames? devDependencies)
  | _ => none

def detectFrom (packages : List String) : List Framework → Logged Detection
  | [] => pure Detection.none
  | f :: rest => do
    let present := f.markers.any packages.contains
    if present then Logged.info s!"detected {f.name}"
    let d ← detectFrom packages rest
    return d.set f present

def detect (disk : Disk) (root : String) : Logged Detection :=
  let path := Path.join root "package.json"
  match (disk.readText path).toOption.bind packages? with
  | none => do
    Logged.debug s!"no usable manifest at {path}"
    return Detection.none
  | some packages => detectFrom packages Framework.all

end RouteAtlas.Manifest
