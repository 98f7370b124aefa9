import RouteAtlas.FileRouter.Path
import RouteAtlas.FileRouter.Verb
import RouteAtlas.Project.Basic
import RouteAtlas.Route.Basic

set_option autoImplicit false

namespace RouteAtlas.FileRouter

open Script (Span)

structure FileRoutes where
  app : List Handler := []
  pages : List Handler := []

def handler (f : SourceFile) (path : String) (method : Method) (span : Span) : Handler where
  name := some s!"{method.name} {path}"
  path := path
  method := method
  file := f.path
  line := f.lineOf span
  middleware := usesMiddleware f.module

def appHandlers (f : SourceFile) (path : String) : Logged (List Handler) := do
  let verbs := exportedVerbs f.module
  if verbs.isEmpty then
    Logged.debug s!"{f.relPath}: route file exports no HTTP verb handlers"
  return verbs.map fun (method, span) => handler f path method span

/-- The handlers of a file under `pages/api`. Without any comparison it answers to GET. -/
def pagesHandlers (f : SourceFile) (path : String) : Logged (List Handler) :=
  match defaultExport? f.module with
  | none => do
    Logged.debug s!"{f.relPath}: API file has no default export handler"
    return []
  | some span =>
    let methods := handledVerbs f.module
    return (if methods.isEmpty then [Method.get] else methods).map (handler f path · span)

def fileHandlers (f : SourceFile) : Logged FileRoutes :=
  match pagesRoute? f.relPath with
  | some path => do return { pages := ← pagesHandlers f path }
  | none =>
    match appRoute? f.relPath with
    | some path => do return { app := ← appHandlers f path }
    | none => pure {}

def allHandlers : List SourceFile → Logged FileRoutes
  | [] => pure {}
  | f :: rest => do
    let first ← fileHandlers f
    let others ← allHandlers rest
    return ⟨first.app ++ others.app, first.pages ++ others.pages⟩

def survey (p : Project) : Logged FileRoutes := do
  let routes ← allHandlers p.files
  Logged.info
    s!"file router: {routes.app.length} app routes, {routes.pages.length} pages routes"
  return routes

end RouteAtlas.FileRouter
