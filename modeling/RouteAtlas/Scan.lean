import RouteAtlas.Cms.Survey
import RouteAtlas.Controller.Survey
import RouteAtlas.FileRouter.Survey
import RouteAtlas.Manifest
import RouteAtlas.Rpc.Survey

set_option autoImplicit false

/-!
# Scanning a project

The routes of all frameworks in use, in a fixed order.
-/
namespace RouteAtlas

def surveyFramework (ws : Workspace) (o : ScanOptions) :
    Framework → Logged (List (RouteType × List Handler))
  | .fileRouter => do
    let routes ← FileRouter.survey ws.project
    return [(.fileRouterApp, routes.app), (.fileRouterPages, routes.pages)]
  | .controller => do return [(.controller, ← Controller.survey ws.project)]
  | .rpc => do return [(.rpc, ← Rpc.survey ws o.rpc .kind)]
  | .configCms => do return [(.configCms, ← Cms.survey ws o.cms)]

def routesOf (ws : Workspace) (o : ScanOptions) (d : Detection) : Logged (List Route) := do
  let groups ← Logged.gather (surveyFramework ws o) (Framework.all.filter d)
  let routes := gatherRoutes groups
  Logged.info s!"found {routes.length} routes"
  return routes

def scanDirectory (disk : Disk) (root : String) (o : ScanOptions) : Logged (List Route) := do
  let detected ← Manifest.detect disk root
  let d := detected.withOverrides o.frameworks
  if d.any then
    let project ← Project.loadFrom disk (disk.locate root)
    routesOf ⟨disk, project⟩ o d
  else
    Logged.info s!"no supported framework detected in {root}"
    return []

/-- Scans the project at a path. Only a path that names no directory is an error. -/
def scan (disk : Disk) (root : String) (o : ScanOptions) :
    Except Project.RootNotFound (Logged (List Route)) :=
  if disk.isDir root then .ok (scanDirectory disk root o) else .error ⟨root⟩

end RouteAtlas
