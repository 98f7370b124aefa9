import RouteAtlas.Proofs.ConfigPlaces
import RouteAtlas.Proofs.HandlerPlaces
import RouteAtlas.Scan

set_option autoImplicit false

namespace RouteAtlas

open Script Reference

theorem surveyFramework_hasPlace {ws : Workspace} (h : ws.project.Indexed) (o : ScanOptions)
    (f : Framework) : ∀ group ∈ (surveyFramework ws o f).value, ∀ x ∈ group.2,
      ws.project.HasPlace x.file x.line := by
  intro group hgroup x hx
  cases f with
  | fileRouter =>
    have hall := FileRouter.survey_hasPlace ws.project
    simp only [surveyFramework, Logged.value_bind, Logged.value_pure, List.mem_cons,
      List.not_mem_nil, or_false] at hgroup
    rcases hgroup with rfl | rfl
    · exact hall x (List.mem_append_left _ hx)
    · exact hall x (List.mem_append_right _ hx)
  | controller =>
    cases List.mem_singleton.1 hgroup
    exact Controller.survey_hasPlace ws.project x hx
  | rpc =>
    cases List.mem_singleton.1 hgroup
    exact Rpc.survey_hasPlace h .kind x hx
  | configCms =>
    cases List.mem_singleton.1 hgroup
    exact Cms.survey_hasPlace h o.cms x hx

theorem routesOf_hasPlace (ws : Workspace) (h : ws.project.Indexed) (o : ScanOptions)
    (d : Detection) : ∀ r ∈ (routesOf ws o d).value, ws.project.HasPlace r.filePath r.line := by
  intro r hr
  obtain ⟨group, hgroup, hr⟩ := List.mem_flatMap.1 hr
  obtain ⟨x, hx, rfl⟩ := List.mem_map.1 hr
  rw [Logged.value_gather] at hgroup
  obtain ⟨f, _, hgroup⟩ := List.mem_flatMap.1 hgroup
  exact surveyFramework_hasPlace h o f group hgroup x hx

theorem scanDirectory_value (disk : Disk) (root : String) (o : ScanOptions) :
    (scanDirectory disk root o).value = [] ∨
      ∃ d, (scanDirectory disk root o).value =
        (routesOf ⟨disk, (Project.loadFrom disk (disk.locate root)).value⟩ o d).value := by
  simp only [scanDirectory, Logged.value_bind]
  split
  · rw [Logged.value_bind]
    exact .inr ⟨_, rfl⟩
  · rw [Logged.value_bind]
    exact .inl (Logged.value_pure _)

/-- The objects that queries give: those that an expression of a file or an export stands for, and
those that are found under the keys of such objects. -/
inductive Workspace.Gives (ws : Workspace) : ObjectRef → Prop
  | object {o : Origin} {e : Node} {obj : ObjectRef} (he : ws.HasNode o.file e)
      (h : obj ∈ (resolveObject ws o e).value) : Gives ws obj
  | element {o : Origin} {e : Node} {obj : ObjectRef} (he : ws.HasNode o.file e)
      (h : obj ∈ (resolveArray ws o e).value) : Gives ws obj
  | exported {file : Nat} {name : String} {obj : ObjectRef}
      (h : obj ∈ (exportedObject ws file name).value) : Gives ws obj
  | property {owner : ObjectRef} {key : String} {obj : ObjectRef} (howner : Gives ws owner)
      (h : obj ∈ (propertyObject ws owner key).value) : Gives ws obj
  | propertyElement {owner : ObjectRef} {key : String} {obj : ObjectRef} (howner : Gives ws owner)
      (h : obj ∈ (propertyArray ws owner key).value) : Gives ws obj

theorem Workspace.Gives.hasObject {ws : Workspace} (hi : ws.project.Indexed) {obj : ObjectRef}
    (h : ws.Gives obj) : ws.HasObject obj := by
  induction h with
  | object he h => exact (ws.sources hi).resolveObject_holds he _ h
  | element he h => exact (ws.sources hi).resolveArray_holds he _ h
  | exported h => exact (ws.sources hi).exportedObject_holds _ _ _ h
  | property _ h ih => exact (ws.sources hi).propertyObject_holds _ ih _ h
  | propertyElement _ h ih => exact (ws.sources hi).propertyArray_holds _ ih _ h

/-- A scan gives every route the path of a file that it has loaded and the line of a syntax node of
that file. And whatever loads have led to a project, the queries give each object with the file
whose module it is a part of. -/
theorem routes_and_objects_have_places :
    (∀ (disk : Disk) (root : String) (o : ScanOptions) (routes : Logged (List Route)),
      scan disk root o = .ok routes → ∀ r ∈ routes.value,
        (Project.loadFrom disk (disk.locate root)).value.HasPlace r.filePath r.line) ∧
    ∀ ws : Workspace, ws.project.Loaded → ∀ obj, ws.Gives obj → ws.HasObject obj := by
  constructor
  · intro disk root o routes hscan r hr
    have hloaded := Project.loadFrom_loaded disk (disk.locate root)
    unfold scan at hscan
    split at hscan
    · obtain rfl := Except.ok.inj hscan
      rcases scanDirectory_value disk root o with hnone | ⟨d, hroutes⟩
      · rw [hnone] at hr
        cases hr
      · rw [hroutes] at hr
        generalize (Project.loadFrom disk (disk.locate root)).value = p at hloaded hr ⊢
        exact routesOf_hasPlace ⟨disk, p⟩ hloaded.indexed o d r hr
    · cases hscan
  · intro ws hloaded obj h
    exact h.hasObject hloaded.indexed

def spreadCollections : Disk :=
  ⟨[], .dir [("p", .dir [("payload.config.ts", .file (String.toUTF8
    "const a = \x7b slug: 's' \x7d, b = [a]\nexport default \x7b collections: [...b] \x7d"))])]⟩

def contentOnly : ScanOptions := { frameworks := { force := [.configCms] } }

theorem spread_collections_have_places :
    ∃ routes, scan spreadCollections "/p" contentOnly = .ok routes ∧
      routes.value.map Route.line = [1, 1, 1, 1, 1, 1, 1, 1, 2, 2, 2, 2] ∧
      (∀ r ∈ routes.value, (Project.loadFrom spreadCollections
        (spreadCollections.locate "/p")).value.HasPlace r.filePath r.line) ∧
      ∃ obj, (Workspace.mk spreadCollections
        (Project.loadFrom spreadCollections ["p"]).value).HasObject obj := by
  have hscan : scan spreadCollections "/p" contentOnly =
      .ok (scanDirectory spreadCollections "/p" contentOnly) := if_pos (by decide +kernel)
  have hloaded := Project.loadFrom_loaded spreadCollections ["p"]
  have hexport : (exportedObject (Workspace.mk spreadCollections
      (Project.loadFrom spreadCollections ["p"]).value) 0 "default").value.isSome := by
    decide +kernel
  obtain ⟨obj, hobj⟩ := Option.isSome_iff_exists.1 hexport
  exact ⟨_, hscan, by decide +kernel, routes_and_objects_have_places.1 _ _ _ _ hscan, obj,
    routes_and_objects_have_places.2 _ hloaded obj (.exported hobj)⟩

end RouteAtlas
