import RouteAtlas.Cms.Config
import RouteAtlas.Options.Basic
import RouteAtlas.Reference.Query

set_option autoImplicit false

namespace RouteAtlas.Cms

open Reference
open Script (Call)

variable (ws : Workspace)

def placeOf (obj : ObjectRef) : Place := ⟨ws.path obj.origin.file, ws.lineOf obj.origin.file obj.span⟩

def collect {α β : Type} (step : α → Logged (Option β)) (as : List α) : Logged (List β) :=
  Logged.gather (fun a => do return (← step a).toList) as

/-- An endpoint needs a path; a method that names no verb counts as GET. -/
def readEndpoint (obj : ObjectRef) : Logged (Option Endpoint) := do
  match ← propertyString ws obj "path" with
  | none => return none
  | some path =>
    let method := ((← propertyString ws obj "method").bind fun s => (Method.parse s).toOption).getD
      .get
    let root := (← propertyFlag ws obj "root").getD false
    return some { path, method, root, place := placeOf ws obj }

/-- The endpoints of an owner, which may switch them off. -/
def readEndpoints (owner : ObjectRef) : Logged (List Endpoint) := do
  if (← propertyFlag ws owner "endpoints") = some false then return []
  else
    let objects ← propertyArray ws owner "endpoints"
    collect (readEndpoint ws) objects

def readCollection (obj : ObjectRef) : Logged (Option Collection) := do
  match ← propertyString ws obj "slug" with
  | none => return none
  | some slug =>
    let auth := (← propertyFlag ws obj "auth").getD false
    let upload := (← propertyFlag ws obj "upload").getD false
    let endpoints ← readEndpoints ws obj
    return some { slug, auth, upload, endpoints, place := placeOf ws obj }

def readGlobal (obj : ObjectRef) : Logged (Option Global) := do
  match ← propertyString ws obj "slug" with
  | none => return none
  | some slug =>
    let endpoints ← readEndpoints ws obj
    return some { slug, endpoints, place := placeOf ws obj }

def defaultRoutesPath : String := "/api"

def readRoutesPath (root : ObjectRef) : Logged String := do
  match ← propertyObject ws root "routes" with
  | none => return defaultRoutesPath
  | some routes => return (← propertyString ws routes "api").getD defaultRoutesPath

/-- Reads a configuration; entries that cannot be followed are left out. -/
def readConfig (root : ObjectRef) : Logged Config := do
  let routesPath ← readRoutesPath ws root
  let collections ← collect (readCollection ws) (← propertyArray ws root "collections")
  let globals ← collect (readGlobal ws) (← propertyArray ws root "globals")
  let endpoints ← readEndpoints ws root
  return {
    routesPath := normalizeRoutesPath routesPath
    collections, globals, endpoints
    place := placeOf ws root }

def isFactory (c : Call) : Bool := c.name? = some "buildConfig"

def firstArgument : List (Nat × Call) → Logged (Option (Nat × ObjectRef))
  | [] => pure none
  | (file, c) :: rest =>
    match c.firstArg? with
    | none => firstArgument rest
    | some arg => do
      match ← resolveObject ws ⟨file, .call⟩ arg with
      | some root => return some (file, root)
      | none => firstArgument rest

def locateIn : List String → Logged (Option ObjectRef)
  | [] => pure none
  | candidate :: rest =>
    match ws.project.fileId? ws.disk (Path.join ws.project.root.text candidate) with
    | none => locateIn rest
    | some file => do
      match ← firstArgument ws ((ws.project.callsIn file isFactory).map (file, ·)) with
      | some (_, root) =>
        Logged.debug s!"cms config found in {candidate}"
        return some root
      | none =>
        match ← exportedObject ws file "default" with
        | some root =>
          Logged.debug s!"cms config is the default export of {candidate}"
          return some root
        | none => locateIn rest

def locate (o : CmsOptions) : Logged (Option Config) := do
  match ← locateIn ws o.configFiles with
  | some root => return some (← readConfig ws root)
  | none =>
    match ← firstArgument ws (ws.project.calls isFactory) with
    | some (file, root) =>
      Logged.debug s!"cms config found in {ws.relPath file}"
      return some (← readConfig ws root)
    | none =>
      Logged.debug "no cms config literal found"
      return none

def survey (o : CmsOptions) : Logged (List Handler) := do
  match ← locate ws o with
  | none => return []
  | some config =>
    let handlers := config.handlers
    Logged.info (s!"config cms: {config.collections.length} collections, " ++
      s!"{config.globals.length} globals, {handlers.length} routes")
    return handlers

end RouteAtlas.Cms
