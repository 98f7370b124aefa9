import Mathlib.Data.List.Forall2
import RouteAtlas.Proofs.ConfigPlaces
import RouteAtlas.Proofs.ListedLiterals

set_option autoImplicit false

namespace RouteAtlas.Cms

open Script Reference

def entryObjects {β : Type} (step : ObjectRef → Logged (Option β)) (objs : List ObjectRef) :
    List ObjectRef :=
  objs.filter fun obj => (step obj).value.isSome

theorem collect_forall₂ {β : Type} (step : ObjectRef → Logged (Option β)) (objs : List ObjectRef) :
    List.Forall₂ (fun obj b => (step obj).value = some b) (entryObjects step objs)
      (collect step objs).value := by
  induction objs with
  | nil => exact .nil
  | cons obj rest ih =>
    cases hobj : (step obj).value with
    | none => simpa [entryObjects, collect, hobj] using ih
    | some b => simpa [entryObjects, collect, hobj] using ih

variable (ws : Workspace)

def collectionObjects (root : ObjectRef) : List ObjectRef :=
  entryObjects (readCollection ws) (propertyArray ws root "collections").value

def globalObjects (root : ObjectRef) : List ObjectRef :=
  entryObjects (readGlobal ws) (propertyArray ws root "globals").value

def endpointObjects (owner : ObjectRef) : List ObjectRef :=
  if (propertyFlag ws owner "endpoints").value = some false then []
  else entryObjects (readEndpoint ws) (propertyArray ws owner "endpoints").value

/-- The lists of objects from which a configuration is read: collections, globals, and the
endpoints of each owner. -/
def entryLists (root : ObjectRef) : List (List ObjectRef) :=
  collectionObjects ws root :: globalObjects ws root ::
    (root :: (collectionObjects ws root ++ globalObjects ws root)).map (endpointObjects ws)

def EndpointsOf (owner : ObjectRef) (endpoints : List Endpoint) : Prop :=
  List.Forall₂ (fun obj e => (readEndpoint ws obj).value = some e) (endpointObjects ws owner)
    endpoints

/-- Each entry of the configuration is read from one of the objects, in order. -/
structure ReadFrom (root : ObjectRef) (config : Config) : Prop where
  collections : List.Forall₂
    (fun obj c => (readCollection ws obj).value = some c ∧ EndpointsOf ws obj c.endpoints)
    (collectionObjects ws root) config.collections
  globals : List.Forall₂
    (fun obj g => (readGlobal ws obj).value = some g ∧ EndpointsOf ws obj g.endpoints)
    (globalObjects ws root) config.globals
  endpoints : EndpointsOf ws root config.endpoints

variable {ws}

theorem readEndpoints_of (owner : ObjectRef) :
    EndpointsOf ws owner (readEndpoints ws owner).value := by
  unfold EndpointsOf endpointObjects readEndpoints
  rw [Logged.value_bind]
  split
  · exact .nil
  · exact collect_forall₂ ..

theorem readCollection_endpoints {obj : ObjectRef} {c : Collection}
    (h : (readCollection ws obj).value = some c) : EndpointsOf ws obj c.endpoints := by
  unfold readCollection at h
  rw [Logged.value_bind] at h
  split at h
  · cases h
  · cases h
    exact readEndpoints_of obj

theorem readGlobal_endpoints {obj : ObjectRef} {g : Global}
    (h : (readGlobal ws obj).value = some g) : EndpointsOf ws obj g.endpoints := by
  unfold readGlobal at h
  rw [Logged.value_bind] at h
  split at h
  · cases h
  · cases h
    exact readEndpoints_of obj

theorem readConfig_from (root : ObjectRef) : ReadFrom ws root (readConfig ws root).value where
  collections := (collect_forall₂ _ _).imp fun _ _ h => ⟨h, readCollection_endpoints h⟩
  globals := (collect_forall₂ _ _).imp fun _ _ h => ⟨h, readGlobal_endpoints h⟩
  endpoints := readEndpoints_of root

theorem exists_root_of_locate {o : CmsOptions} {config : Config}
    (h : (locate ws o).value = some config) : ∃ root, config = (readConfig ws root).value := by
  unfold locate at h
  rw [Logged.value_bind] at h
  split at h
  · rename_i root _
    exact ⟨root, (Option.some.inj h).symm⟩
  · rw [Logged.value_bind] at h
    split at h
    · rename_i root _
      exact ⟨root, (Option.some.inj h).symm⟩
    · cases h

theorem endpointObjects_listedFrom {root owner : ObjectRef}
    (h : (Region.partsOf ws root).HoldsObject owner) :
    ListedFrom ws root (endpointObjects ws owner) := by
  unfold endpointObjects
  split
  · exact .nil
  · exact (ListedFrom.propertyArray "endpoints" h).filter _

theorem entryLists_listedFrom (ws : Workspace) (root : ObjectRef) :
    ∀ objs ∈ entryLists ws root, ListedFrom ws root objs := by
  have hself := Region.partsOf_self ws root
  have hcollections : ListedFrom ws root (collectionObjects ws root) :=
    (ListedFrom.propertyArray "collections" hself).filter _
  have hglobals : ListedFrom ws root (globalObjects ws root) :=
    (ListedFrom.propertyArray "globals" hself).filter _
  intro objs hobjs
  rcases List.mem_cons.1 hobjs with rfl | hobjs
  · exact hcollections
  rcases List.mem_cons.1 hobjs with rfl | hobjs
  · exact hglobals
  obtain ⟨owner, howner, rfl⟩ := List.mem_map.1 hobjs
  refine endpointObjects_listedFrom ?_
  rcases List.mem_cons.1 howner with rfl | howner
  · exact hself
  · exact (List.mem_append.1 howner).elim (hcollections.held owner) (hglobals.held owner)

/-- No list of a configuration has an object of the sources more than twice, and it has each object
once unless one of them leads back. -/
theorem located_literals_repeat_only_back (ws : Workspace) (o : CmsOptions) (config : Config)
    (h : (locate ws o).value = some config) :
    ∃ root, ReadFrom ws root config ∧ ∀ objs ∈ entryLists ws root,
      (∀ s, (objs.map ObjectRef.source).count s ≤ 2) ∧
      ((objs.map ObjectRef.source).Nodup ∨ ∃ obj ∈ objs, root.LeadsBackTo obj) := by
  obtain ⟨root, rfl⟩ := exists_root_of_locate h
  refine ⟨root, readConfig_from root, fun objs hobjs => ?_⟩
  have hlisted := entryLists_listedFrom ws root objs hobjs
  refine ⟨hlisted.count_source_le_two, ?_⟩
  by_cases hback : ∃ obj ∈ objs, root.LeadsBackTo obj
  · exact .inr hback
  · exact .inl (hlisted.source_nodup fun obj hobj h => hback ⟨obj, hobj, h⟩)

def oneConfig (text : String) : Workspace :=
  let disk : Disk := ⟨[], .dir [("p", .dir [("payload.config.ts", .file text.toUTF8)])]⟩
  ⟨disk, (Project.loadFrom disk ["p"]).value⟩

/-- An exported configuration that spreads its own collections. -/
def exportedSpread : Workspace :=
  oneConfig ("const c = \x7b collections: [\x7b slug: 'a' \x7d, ...c.collections] \x7d\n" ++
    "export default c")

theorem exported_spread_once :
    ∃ config, (locate exportedSpread {}).value = some config ∧
      config.collections.map Collection.slug = ["a"] ∧
      ∃ root, ReadFrom exportedSpread root config ∧ ∀ objs ∈ entryLists exportedSpread root,
        (∀ s, (objs.map ObjectRef.source).count s ≤ 2) ∧
        ((objs.map ObjectRef.source).Nodup ∨ ∃ obj ∈ objs, root.LeadsBackTo obj) := by
  have hslugs : (locate exportedSpread {}).value.map (·.collections.map Collection.slug) =
      some ["a"] := by decide +kernel
  obtain ⟨config, hconfig, hslugs⟩ := Option.map_eq_some_iff.1 hslugs
  exact ⟨config, hconfig, hslugs, located_literals_repeat_only_back _ _ _ hconfig⟩

def calledSpread : Workspace :=
  oneConfig "const c = buildConfig(\x7b collections: [\x7b slug: 'a' \x7d, ...c.collections] \x7d)"

/-- The call and the declaration around it both hold the only collection, which is listed twice. -/
theorem called_spread_twice :
    ∃ config root, (locate calledSpread {}).value = some config ∧
      ReadFrom calledSpread root config ∧
      config.collections.map Collection.slug = ["a", "a"] ∧
      ¬((collectionObjects calledSpread root).map ObjectRef.source).Nodup := by
  have hroot : (locateIn calledSpread ({} : CmsOptions).configFiles).value.map (fun root =>
      ((readConfig calledSpread root).value.collections.map Collection.slug,
        decide ((collectionObjects calledSpread root).map ObjectRef.source).Nodup)) =
      some (["a", "a"], false) := by decide +kernel
  obtain ⟨root, hlocate, hroot⟩ := Option.map_eq_some_iff.1 hroot
  obtain ⟨hslugs, hrepeated⟩ := Prod.mk.inj hroot
  refine ⟨(readConfig calledSpread root).value, root, ?_, readConfig_from root, hslugs, ?_⟩
  · unfold locate
    rw [Logged.value_bind, hlocate]
    rfl
  · exact of_decide_eq_false hrepeated

end RouteAtlas.Cms
