import Mathlib.Data.List.Basic
import RouteAtlas.Scan

set_option autoImplicit false

namespace RouteAtlas

namespace Manifest

/-- The manifest of a directory can be read and depends on a package of a framework. -/
def Declares (disk : Disk) (root : String) (f : Framework) : Prop :=
  ∃ text packages, disk.readText (Path.join root "package.json") = .ok text ∧
    packages? text = some packages ∧ ∃ marker ∈ f.markers, marker ∈ packages

theorem detectFrom_cons_value (packages : List String) (f : Framework) (rest : List Framework) :
    (detectFrom packages (f :: rest)).value =
      (detectFrom packages rest).value.set f (f.markers.any packages.contains) := by
  simp only [detectFrom]
  split <;> rfl

theorem detectFrom_value (packages : List String) (f : Framework) {fs : List Framework}
    (hf : f ∈ fs) : (detectFrom packages fs).value f = f.markers.any packages.contains := by
  induction fs with
  | nil => cases hf
  | cons g rest ih =>
    rw [detectFrom_cons_value, Detection.set]
    by_cases hg : f = g
    · rw [if_pos hg, hg]
    · rw [if_neg hg]
      exact ih ((List.mem_cons.1 hf).resolve_left hg)

theorem detect_value_iff (disk : Disk) (root : String) (f : Framework) :
    (detect disk root).value f = true ↔ Declares disk root f := by
  unfold detect
  cases htext : disk.readText (Path.join root "package.json") with
  | error e => simp [Declares, htext, Except.toOption, Detection.none]
  | ok text =>
    cases hpackages : packages? text with
    | none => simp [Declares, htext, hpackages, Except.toOption, Detection.none]
    | some packages =>
      simp [Declares, htext, hpackages, Except.toOption,
        detectFrom_value packages f (Framework.mem_all f)]

end Manifest

/-- A framework is in use when it is not left out, and is either asked for or declared. -/
def Framework.Enabled (disk : Disk) (root : String) (o : FrameworkOptions) (f : Framework) :
    Prop :=
  f ∉ o.disable ∧ (f ∈ o.force ∨ Manifest.Declares disk root f)

theorem Framework.enabled_iff (disk : Disk) (root : String) (o : FrameworkOptions)
    (f : Framework) :
    (Manifest.detect disk root).value.withOverrides o f = true ↔ f.Enabled disk root o := by
  rw [Detection.withOverrides_apply, Enabled, ← Manifest.detect_value_iff]
  simp

instance (disk : Disk) (root : String) (o : FrameworkOptions) (f : Framework) :
    Decidable (f.Enabled disk root o) :=
  decidable_of_iff _ (Framework.enabled_iff disk root o f)

def RouteType.framework : RouteType → Framework
  | .fileRouterApp | .fileRouterPages => .fileRouter
  | .controller => .controller
  | .rpc => .rpc
  | .configCms => .configCms

/-- The types of routes in the order in which a scan lists them. -/
def RouteType.inScanOrder : List RouteType :=
  [.fileRouterApp, .fileRouterPages, .controller, .rpc, .configCms]

def Framework.types (f : Framework) : List RouteType :=
  RouteType.inScanOrder.filter (·.framework = f)

theorem RouteType.inScanOrder_eq : inScanOrder = Framework.all.flatMap Framework.types := rfl

def handlersOf (ws : Workspace) (o : ScanOptions) : RouteType → List Handler
  | .fileRouterApp => (FileRouter.survey ws.project).value.app
  | .fileRouterPages => (FileRouter.survey ws.project).value.pages
  | .controller => (Controller.survey ws.project).value
  | .rpc => (Rpc.survey ws o.rpc .kind).value
  | .configCms => (Cms.survey ws o.cms).value

def routesOfType (ws : Workspace) (o : ScanOptions) (t : RouteType) : List Route :=
  (handlersOf ws o t).map (·.toRoute t)

theorem surveyFramework_value (ws : Workspace) (o : ScanOptions) (f : Framework) :
    (surveyFramework ws o f).value = f.types.map fun t => (t, handlersOf ws o t) := by
  cases f <;> rfl

theorem flatMap_filter {α β : Type} (keep : α → Bool) (f : α → List β) (as : List α) :
    (as.filter keep).flatMap f = as.flatMap fun a => if keep a then f a else [] := by
  induction as with
  | nil => rfl
  | cons a rest ih => cases h : keep a <;> simp [h, ih]

theorem framework_of_mem_types {f : Framework} {t : RouteType} (h : t ∈ f.types) :
    t.framework = f := by
  simpa using (List.mem_filter.1 h).2

theorem flatMap_types_ite {β : Type} (d : Detection) (f : Framework) (g : RouteType → List β) :
    (f.types.flatMap fun t => if d t.framework then g t else []) =
      if d f then f.types.flatMap g else [] := by
  cases hd : d f with
  | true =>
    refine List.flatMap_congr fun t ht => ?_
    rw [framework_of_mem_types ht, hd, if_pos rfl]
  | false =>
    refine List.flatMap_eq_nil_iff.2 fun t ht => ?_
    rw [framework_of_mem_types ht, hd]
    rfl

theorem routesOf_value (ws : Workspace) (o : ScanOptions) (d : Detection) :
    (routesOf ws o d).value =
      RouteType.inScanOrder.flatMap fun t => if d t.framework then routesOfType ws o t else [] := by
  have hgroup (f : Framework) :
      gatherRoutes (surveyFramework ws o f).value = f.types.flatMap (routesOfType ws o) := by
    rw [surveyFramework_value, gatherRoutes, List.flatMap_map]
    rfl
  calc (routesOf ws o d).value
      = (Framework.all.filter d).flatMap fun f => gatherRoutes (surveyFramework ws o f).value := by
        simp only [routesOf, Logged.value_bind, Logged.value_pure, Logged.value_gather]
        exact List.flatMap_assoc
    _ = Framework.all.flatMap fun f => if d f then f.types.flatMap (routesOfType ws o) else [] := by
        simp only [hgroup]
        exact flatMap_filter d _ _
    _ = _ := by
        simp only [RouteType.inScanOrder_eq, List.flatMap_assoc, flatMap_types_ite]

theorem routesOf_filter_framework (ws : Workspace) (o : ScanOptions) (d : Detection)
    (f : Framework) :
    (routesOf ws o d).value.filter (·.type.framework = f) =
      if d f then f.types.flatMap (routesOfType ws o) else [] := by
  have hkept (t : RouteType) : (routesOfType ws o t).filter (·.type.framework = f) =
      if decide (t.framework = f) then routesOfType ws o t else [] := by
    have htype : ∀ r ∈ routesOfType ws o t, r.type = t := by
      intro r hr
      obtain ⟨x, _, rfl⟩ := List.mem_map.1 hr
      rfl
    by_cases h : t.framework = f
    · rw [if_pos (decide_eq_true h)]
      exact List.filter_eq_self.2 fun r hr => by simp [htype r hr, h]
    · rw [if_neg (by simpa using h)]
      exact List.filter_eq_nil_iff.2 fun r hr => by simp [htype r hr, h]
  rw [routesOf_value, List.filter_flatMap, ← flatMap_types_ite, Framework.types, flatMap_filter]
  refine List.flatMap_congr fun t _ => ?_
  cases d t.framework with
  | true => exact hkept t
  | false => simp

theorem Detection.any_eq_false {d : Detection} (h : d.any = false) (f : Framework) :
    d f = false := by
  simpa using List.any_eq_false.1 h f (Framework.mem_all f)

theorem scanDirectory_value_eq_routesOf (disk : Disk) (root : String) (o : ScanOptions) :
    (scanDirectory disk root o).value =
      (routesOf ⟨disk, (Project.loadFrom disk (disk.locate root)).value⟩ o
        ((Manifest.detect disk root).value.withOverrides o.frameworks)).value := by
  simp only [scanDirectory, Logged.value_bind]
  split
  · rfl
  · rename_i hany
    -- the project is not loaded here, and no survey of it would be taken
    rw [routesOf_value]
    simp [Detection.any_eq_false (Bool.eq_false_iff.2 hany)]

theorem scan_ok {disk : Disk} {root : String} {o : ScanOptions} {routes : Logged (List Route)}
    (h : scan disk root o = .ok routes) : routes = scanDirectory disk root o := by
  unfold scan at h
  split at h
  · exact (Except.ok.inj h).symm
  · cases h

theorem routesOfType_frameworks (ws : Workspace) (o : ScanOptions) (fw : FrameworkOptions) :
    routesOfType ws { o with frameworks := fw } = routesOfType ws o := by
  funext t
  cases t <;> rfl

theorem scan_filter_framework {disk : Disk} {root : String} {o : ScanOptions}
    {routes : Logged (List Route)} (h : scan disk root o = .ok routes) {f : Framework}
    (hf : f.Enabled disk root o.frameworks) :
    routes.value.filter (·.type.framework = f) = f.types.flatMap
      (routesOfType ⟨disk, (Project.loadFrom disk (disk.locate root)).value⟩ o) := by
  rw [scan_ok h, scanDirectory_value_eq_routesOf, routesOf_filter_framework,
    if_pos ((Framework.enabled_iff disk root o.frameworks f).2 hf)]

/-- A scan is an error exactly when its path names no directory, and the error says so. Otherwise
it gives, type after type, one route for each handler that the survey of a framework in use finds
in the loaded project. So two scans that ask for different frameworks agree on the routes of every
framework that is in use in both. -/
theorem scan_concatenates_enabled_surveys (disk : Disk) (root : String) (o : ScanOptions) :
    (∀ e, scan disk root o = .error e ↔ disk.isDir root = false ∧ e = ⟨root⟩) ∧
    (disk.isDir root = true → ∃ project routes,
      Project.load disk root = .ok project ∧ scan disk root o = .ok routes ∧
      routes.value = RouteType.inScanOrder.flatMap fun t =>
        if t.framework.Enabled disk root o.frameworks then
          (handlersOf ⟨disk, project.value⟩ o t).map (·.toRoute t)
        else []) ∧
    ∀ (fw : FrameworkOptions) (f : Framework) (routes routes' : Logged (List Route)),
      scan disk root o = .ok routes → scan disk root { o with frameworks := fw } = .ok routes' →
      f.Enabled disk root o.frameworks → f.Enabled disk root fw →
      routes.value.filter (·.type.framework = f) = routes'.value.filter (·.type.framework = f) := by
  refine ⟨fun e => ?_, fun hdir => ?_, fun fw f routes routes' h h' hf hf' => ?_⟩
  · cases hdir : disk.isDir root <;> simp [scan, hdir, eq_comm]
  · refine ⟨_, _, if_pos hdir, if_pos hdir, ?_⟩
    rw [scanDirectory_value_eq_routesOf, routesOf_value]
    simp only [Framework.enabled_iff]
    rfl
  · rw [scan_filter_framework h hf, scan_filter_framework h' hf']
    rw [routesOfType_frameworks _ o fw]

def brokenProject : Disk :=
  ⟨[], .dir [("p", .dir [
    ("package.json", .file (String.toUTF8
      "\x7b \"dependencies\": \x7b \"next\": \"14\" \x7d \x7d")),
    ("tsconfig.json", .file (String.toUTF8 "\x7b")),
    ("app", .dir [("route.ts", .file (String.toUTF8
      "export const GET = router(\x7b list: publicProcedure.query(() => 1) \x7d)"))])])]⟩

def routerForced : ScanOptions :=
  { frameworks := { force := [.rpc] }, rpc := { routerPattern := some "(" } }

def fileRouterOnly : FrameworkOptions := { force := [.fileRouter, .rpc], disable := [.rpc] }

theorem broken_project_scanned :
    scan brokenProject "/q" routerForced = .error ⟨"/q"⟩ ∧
    ∃ routes routes', scan brokenProject "/p" routerForced = .ok routes ∧
      scan brokenProject "/p" { routerForced with frameworks := fileRouterOnly } = .ok routes' ∧
      routes.value.map (·.type) = [.fileRouterApp, .rpc] ∧
      routes'.value.map (·.type) = [.fileRouterApp] ∧
      routes.value.filter (·.type.framework = .fileRouter) =
        routes'.value.filter (·.type.framework = .fileRouter) := by
  have hdir : brokenProject.isDir "/p" = true := by decide +kernel
  obtain ⟨herror, _, _⟩ := scan_concatenates_enabled_surveys brokenProject "/q" routerForced
  obtain ⟨_, hok, hagree⟩ := scan_concatenates_enabled_surveys brokenProject "/p" routerForced
  obtain ⟨_, routes, _, hscan, hroutes⟩ := hok hdir
  obtain ⟨_, routes', _, hscan', hroutes'⟩ := (scan_concatenates_enabled_surveys brokenProject "/p"
    { routerForced with frameworks := fileRouterOnly }).2.1 hdir
  refine ⟨(herror _).2 ⟨by decide +kernel, rfl⟩, routes, routes', hscan, hscan', ?_, ?_,
    hagree fileRouterOnly .fileRouter routes routes' hscan hscan' (by decide +kernel)
      (by decide +kernel)⟩
  · rw [scan_ok hscan]
    decide +kernel
  · rw [scan_ok hscan']
    decide +kernel

end RouteAtlas
