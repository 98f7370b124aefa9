import RouteAtlas.Reference.Walk

set_option autoImplicit false

namespace RouteAtlas.Reference

open Script Tracing

variable (ws : Workspace)

def resolveObject (o : Origin) (e : Node) : Logged (Option ObjectRef) := do
  match ← (trace ws (.value o e)).run with
  | some (.object obj) => return some obj
  | _ =>
    Logged.debug s!"{ws.relPath o.file}: expression does not resolve to an object literal"
    return none

def resolveArray (o : Origin) (e : Node) : Logged (List ObjectRef) :=
  Tracing.run do
    match ← trace ws (.value o e) with
    | some (.array arr) => trace ws (.elements arr)
    | _ =>
      debug s!"{ws.relPath o.file}: expression does not resolve to an array literal"
      return []

def exportedObject (file : Nat) (name : String) : Logged (Option ObjectRef) := do
  match ← (trace ws (.exportValue file name)).run with
  | some (.object obj) => return some obj
  | _ => return none

def property (obj : ObjectRef) (key : String) : Logged (Option Property) :=
  (trace ws (.lookup obj key)).run

def keyValue (obj : ObjectRef) (key : String) : Tracing (Option Value) := do
  match ← trace ws (.lookup obj key) with
  | some p => trace ws (.propertyValue p)
  | none => return none

def propertyObject (obj : ObjectRef) (key : String) : Logged (Option ObjectRef) := do
  match ← (keyValue ws obj key).run with
  | some (.object found) => return some found
  | _ => return none

def propertyArray (obj : ObjectRef) (key : String) : Logged (List ObjectRef) :=
  Tracing.run do
    match ← trace ws (.lookup obj key) with
    | none => return []
    | some p =>
      match ← trace ws (.propertyValue p) with
      | some (.array arr) => trace ws (.elements arr)
      | _ =>
        debug s!"{ws.relPath obj.origin.file}: `{key}` does not resolve to an array literal"
        return []

def propertyString (obj : ObjectRef) (key : String) : Logged (Option String) := do
  match ← (keyValue ws obj key).run with
  | some (.text s) => return some s
  | _ => return none

/-- A flag is on when it is `true` or an object with settings. -/
def propertyFlag (obj : ObjectRef) (key : String) : Logged (Option Bool) := do
  match ← (keyValue ws obj key).run with
  | some (.flag b) => return some b
  | some (.object _) => return some true
  | _ => return none

end RouteAtlas.Reference
