import RouteAtlas.Proofs.ConfigHandlers
import RouteAtlas.Proofs.RouteFiles
import RouteAtlas.Proofs.RoutePlaces

set_option autoImplicit false

namespace RouteAtlas

open RoutePath

namespace FileRouter

theorem appRoute?_normal {path route : String} (h : appRoute? path = some route) :
    Normal route := by
  obtain ⟨f, _, _, rfl⟩ := appRoute?_eq_some_iff.1 h
  exact join_normal fun d hd => f.dirs_noSlash d (List.mem_filter.1 hd).1

theorem pagesRoute?_normal {path route : String} (h : pagesRoute? path = some route) :
    Normal route := by
  obtain ⟨f, _, _, rfl⟩ := pagesRoute?_eq_some_iff.1 h
  have hslash : ∀ d ∈ "api".toList :: (f.dirs ++ if f.stem = "index".toList then [] else [f.stem]),
      '/' ∉ d := by
    intro d hd
    rcases List.mem_cons.1 hd with rfl | hd
    · decide
    · rcases List.mem_append.1 hd with hd | hd
      · exact f.dirs_noSlash d hd
      · split at hd
        · cases hd
        · rw [List.mem_singleton.1 hd]
          exact f.stem_noSlash
  -- the fixed first component is its own route spelling
  exact join_normal hslash

theorem survey_normal (p : Project) :
    ∀ x ∈ (survey p).value.app ++ (survey p).value.pages, Normal x.path := by
  intro x hx
  obtain ⟨f, _, hx⟩ := exists_file_of_mem_survey hx
  rcases fileHandlers_path hx with h | h
  · exact pagesRoute?_normal h
  · exact appRoute?_normal h

end FileRouter

namespace Controller

theorem memberHandlers_normal (s : Scope) (n : Script.Node) :
    ∀ x ∈ memberHandlers s n, Normal x.path := by
  unfold memberHandlers
  split
  · rename_i key params decorators rest
    split
    · intro x hx
      obtain ⟨verb, _, rfl⟩ := List.mem_map.1 hx
      obtain ⟨_, _, _, hframe⟩ := foldl_describe_frame _ (parameterDecorators params)
      rw [hframe]
      exact joinNormalized_normal _
    · simp
  · simp

theorem classHandlers_normal (f : SourceFile) (globalPath : String) (n : Script.Node) :
    ∀ x ∈ (classHandlers f globalPath n).value, Normal x.path := by
  unfold classHandlers
  split
  · split
    · simp
    · intro x hx
      obtain ⟨member, _, hx⟩ := List.mem_flatMap.1 hx
      exact memberHandlers_normal _ member x hx
  · simp

theorem survey_normal (p : Project) : ∀ x ∈ (survey p).value, Normal x.path := by
  intro x hx
  rw [survey_value] at hx
  obtain ⟨f, _, hx⟩ := List.mem_flatMap.1 hx
  obtain ⟨n, _, hx⟩ := List.mem_flatMap.1 hx
  exact classHandlers_normal f _ n x hx

end Controller

namespace Cms

theorem Operation.handler_normal (op : Operation) (base : String) (place : Place)
    (source : HandlerSource) (contentType name : String) :
    Normal (op.handler base place source contentType name).path := by
  rw [Operation.handler_path]
  exact joinNormalized_normal _

theorem endpointHandlers_normal {base slug : String} {endpoints : List Endpoint} {x : Handler}
    (h : x ∈ endpointHandlers base slug endpoints) : Normal x.path := by
  obtain ⟨e, _, rfl⟩ := List.mem_map.1 h
  rw [Endpoint.handler_path]
  exact joinNormalized_normal _

theorem Collection.handlers_normal {c : Collection} {routesPath : String} {x : Handler}
    (h : x ∈ c.handlers routesPath) : Normal x.path := by
  rcases List.mem_append.1 h with h | h
  · obtain ⟨op, _, rfl⟩ := List.mem_map.1 h
    exact Operation.handler_normal ..
  · exact endpointHandlers_normal h

theorem Global.handlers_normal {g : Global} {routesPath : String} {x : Handler}
    (h : x ∈ g.handlers routesPath) : Normal x.path := by
  rcases List.mem_append.1 h with h | h
  · obtain ⟨op, _, rfl⟩ := List.mem_map.1 h
    exact Operation.handler_normal ..
  · exact endpointHandlers_normal h

theorem Config.handlers_normal {c : Config} {x : Handler} (h : x ∈ c.handlers) : Normal x.path := by
  simp only [Config.handlers, List.mem_append, List.mem_flatMap, List.mem_map] at h
  rcases h with ((⟨collection, _, h⟩ | ⟨g, _, h⟩) | ⟨e, _, rfl⟩) | ⟨op, _, rfl⟩
  · exact Collection.handlers_normal h
  · exact Global.handlers_normal h
  · rw [Endpoint.handler_path]
    exact joinNormalized_normal _
  · exact Operation.handler_normal ..

theorem survey_normal (ws : Workspace) (o : CmsOptions) :
    ∀ x ∈ (survey ws o).value, Normal x.path := by
  unfold survey
  rw [Logged.value_bind]
  split
  · simp
  · intro x hx
    exact Config.handlers_normal hx

end Cms

namespace Rpc

theorem handler_path (ws : Workspace) (endpoint : String) (c : Classifier) (f : Found) :
    (handler ws endpoint c f).path = join [endpoint, f.name] := by
  simp only [handler]
  split <;> rfl

theorem exists_name_of_mem_survey {ws : Workspace} {o : RpcOptions} {c : Classifier} {x : Handler}
    (h : x ∈ (survey ws o c).value) :
    ∃ name, x.name = some name ∧ x.path = join [o.endpoint, name] := by
  rw [survey_value] at h
  obtain ⟨f, _, rfl⟩ := List.mem_map.1 h
  exact ⟨f.name, handler_name .., handler_path ..⟩

/-- A path under a router is canonical, and it is in the route spelling exactly when neither the
endpoint nor the name of the procedure has a component in brackets. -/
theorem router_path_normalized_iff (ws : Workspace) (o : RpcOptions) (c : Classifier) :
    ∀ x ∈ (survey ws o c).value, ∃ name, x.name = some name ∧ Canonical x.path ∧
      (normalize x.path = x.path ↔
        ∀ text ∈ [o.endpoint, name], ∀ part ∈ components text, ¬Segment.Bracketed part) := by
  intro x hx
  obtain ⟨name, hname, hpath⟩ := exists_name_of_mem_survey hx
  rw [hpath]
  exact ⟨name, hname, join_canonical _, normalize_join_eq_self_iff⟩

def listRouter : Disk :=
  ⟨[], .dir [("p", .dir [("r.ts", .file (String.toUTF8
    "export const appRouter = router(\x7b list: publicProcedure.query(() => 1) \x7d)"))])]⟩

def listWorkspace : Workspace := ⟨listRouter, (Project.loadFrom listRouter ["p"]).value⟩

theorem usual_endpoint_normalized :
    ∃ x ∈ (survey listWorkspace {} .kind).value, ∃ name, x.name = some name ∧
      Canonical x.path ∧ (normalize x.path = x.path ↔
        ∀ text ∈ ["/api/trpc", name], ∀ part ∈ components text, ¬Segment.Bracketed part) := by
  have hone : (survey listWorkspace {} .kind).value ≠ [] := by
    rw [← List.isEmpty_eq_false_iff]
    decide +kernel
  obtain ⟨x, hx⟩ := List.exists_mem_of_ne_nil _ hone
  exact ⟨x, hx, router_path_normalized_iff listWorkspace {} .kind x hx⟩

theorem bracketed_endpoint_kept :
    ∃ x ∈ (survey listWorkspace { endpoint := "/api/[tenant]" } .kind).value,
      x.path = "/api/[tenant]/app.list" ∧ normalize x.path ≠ x.path := by
  have hpaths : (survey listWorkspace { endpoint := "/api/[tenant]" } .kind).value.map (·.path) =
      ["/api/[tenant]/app.list"] := by
    decide +kernel
  obtain ⟨x, hx, hpath⟩ := List.mem_map.1 (hpaths ▸ List.mem_singleton_self _)
  refine ⟨x, hx, hpath, ?_⟩
  rw [hpath]
  decide +kernel

end Rpc

theorem surveyFramework_paths (ws : Workspace) (o : ScanOptions) (f : Framework) :
    ∀ group ∈ (surveyFramework ws o f).value, ∀ x ∈ group.2,
      Canonical x.path ∧ (group.1 ≠ .rpc → Normal x.path) := by
  intro group hgroup x hx
  have of_normal (h : Normal x.path) : Canonical x.path ∧ (group.1 ≠ .rpc → Normal x.path) :=
    ⟨h.canonical, fun _ => h⟩
  cases f with
  | fileRouter =>
    have hall := FileRouter.survey_normal ws.project
    simp only [surveyFramework, Logged.value_bind, Logged.value_pure, List.mem_cons,
      List.not_mem_nil, or_false] at hgroup
    rcases hgroup with rfl | rfl
    · exact of_normal (hall x (List.mem_append_left _ hx))
    · exact of_normal (hall x (List.mem_append_right _ hx))
  | controller =>
    cases List.mem_singleton.1 hgroup
    exact of_normal (Controller.survey_normal ws.project x hx)
  | rpc =>
    cases List.mem_singleton.1 hgroup
    obtain ⟨name, _, hpath⟩ := Rpc.exists_name_of_mem_survey hx
    refine ⟨?_, fun h => absurd rfl h⟩
    rw [hpath]
    exact join_canonical _
  | configCms =>
    cases List.mem_singleton.1 hgroup
    exact of_normal (Cms.survey_normal ws o.cms x hx)

/-- A route of a scan is made of a handler that the survey of some framework finds. -/
theorem exists_handler_of_mem_scan {disk : Disk} {root : String} {o : ScanOptions}
    {routes : Logged (List Route)} (hscan : scan disk root o = .ok routes) {r : Route}
    (hr : r ∈ routes.value) :
    ∃ f, ∃ group ∈ (surveyFramework
        ⟨disk, (Project.loadFrom disk (disk.locate root)).value⟩ o f).value,
      ∃ x ∈ group.2, r = x.toRoute group.1 := by
  unfold scan at hscan
  split at hscan
  · obtain rfl := Except.ok.inj hscan
    rcases scanDirectory_value disk root o with hnone | ⟨d, hroutes⟩
    · rw [hnone] at hr
      cases hr
    · rw [hroutes] at hr
      obtain ⟨group, hgroup, hr⟩ := List.mem_flatMap.1 hr
      obtain ⟨x, hx, rfl⟩ := List.mem_map.1 hr
      rw [Logged.value_gather] at hgroup
      obtain ⟨f, _, hgroup⟩ := List.mem_flatMap.1 hgroup
      exact ⟨f, group, hgroup, x, hx, rfl⟩
  · cases hscan

/-- Every route of a scan has a canonical path, whatever the project and the options hold, and
every route that is not under a router has a path in the route spelling, without brackets. -/
theorem scanned_paths_canonical (disk : Disk) (root : String) (o : ScanOptions)
    (routes : Logged (List Route)) (hscan : scan disk root o = .ok routes) :
    ∀ r ∈ routes.value, Canonical r.path ∧
      (r.type ≠ .rpc →
        normalize r.path = r.path ∧ ∀ c ∈ components r.path, ¬Segment.Bracketed c) := by
  intro r hr
  obtain ⟨f, group, hgroup, x, hx, rfl⟩ := exists_handler_of_mem_scan hscan hr
  obtain ⟨hcanonical, hnormal⟩ := surveyFramework_paths _ o f group hgroup x hx
  refine ⟨hcanonical, fun htype => ?_⟩
  have hpath := (hnormal htype).normalized
  exact ⟨hpath, normalize_eq_self_iff.1 hpath⟩

def bracketedTexts : Disk :=
  ⟨[], .dir [("p", .dir [("app", .dir [("[...id]", .dir [("route.ts", .file (String.toUTF8
    ("export const GET = router(\x7b '/[x]/': publicProcedure.query() \x7d)\n" ++
      "@Controller('//[a]/') class C \x7b @Get('b//[[...c]]') m() \x7b\x7d \x7d")))])])])]⟩

def threeFrameworks : ScanOptions :=
  { frameworks := { force := [.fileRouter, .controller, .rpc] }, rpc := { endpoint := "e//" } }

theorem bracketed_texts_canonical :
    ∃ routes, scan bracketedTexts "/p" threeFrameworks = .ok routes ∧
      routes.value.map (·.path) = ["/:id+", "/:a/b/:c*", "/e/get./[x]"] ∧
      ∀ r ∈ routes.value, Canonical r.path ∧
        (r.type ≠ .rpc →
          normalize r.path = r.path ∧ ∀ c ∈ components r.path, ¬Segment.Bracketed c) := by
  have hscan : scan bracketedTexts "/p" threeFrameworks =
      .ok (scanDirectory bracketedTexts "/p" threeFrameworks) := if_pos (by decide +kernel)
  exact ⟨_, hscan, by decide +kernel, scanned_paths_canonical _ _ _ _ hscan⟩

end RouteAtlas
