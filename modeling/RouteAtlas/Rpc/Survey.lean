import RouteAtlas.Route.Basic
import RouteAtlas.Rpc.Graph

set_option autoImplicit false

namespace RouteAtlas.Rpc

def reportSites (m : Matcher) (f : SourceFile) : Logged (List RouterSite) :=
  Logged.gather (fun s => do
    Logged.debug (s!"{f.relPath}: router `{s.name}` with {s.procedures.length} procedures, " ++
      s!"{s.mounts.length} mounts")
    return [s]) (sitesOf m f)

def handler (ws : Workspace) (endpoint : String) (c : Classifier) (f : Found) : Handler :=
  let method := c.classify f.name f.kind
  let h : Handler :=
    { name := some f.name, path := RoutePath.join [endpoint, f.name], method,
      file := ws.path f.file, line := f.line }
  if method = .get then h.withQueryKeys ["input"]
  else h.withHeader "Content-Type" "application/json"

def survey (ws : Workspace) (o : RpcOptions) (c : Classifier) : Logged (List Handler) := do
  let m ← Matcher.ofOptions o
  let sites ← Logged.gather (reportSites m) ws.project.files
  let g : RouterGraph := ⟨sites, ws.project.files.flatMap (procedureVarsOf m)⟩
  let handlers := (g.procedures ws).map (handler ws o.endpoint c)
  Logged.info s!"rpc: {handlers.length} routes from {sites.length} router call sites"
  return handlers

end RouteAtlas.Rpc
