import RouteAtlas.Cms.Survey
import RouteAtlas.Proofs.ProcedurePlaces
import RouteAtlas.Proofs.QueryRegion

set_option autoImplicit false

namespace RouteAtlas

open Script Reference

def Handler.place (x : Handler) : Cms.Place := ⟨x.file, x.line⟩

namespace Cms

def Collection.places (c : Collection) : List Place := c.place :: c.endpoints.map Endpoint.place

def Global.places (g : Global) : List Place := g.place :: g.endpoints.map Endpoint.place

def Config.places (c : Config) : List Place :=
  c.place :: (c.collections.flatMap Collection.places ++ c.globals.flatMap Global.places ++
    c.endpoints.map Endpoint.place)

theorem Operation.handler_place (op : Operation) (base : String) (place : Place)
    (source : HandlerSource) (contentType name : String) :
    (op.handler base place source contentType name).place = place := by
  unfold Operation.handler
  dsimp only
  split <;> rfl

theorem Endpoint.handler_place (e : Endpoint) (path : String) (slug : Option String) :
    (e.handler path slug).place = e.place := by
  unfold Endpoint.handler
  dsimp only
  split <;> rfl

theorem endpointHandlers_place {base slug : String} {endpoints : List Endpoint} {x : Handler}
    (h : x ∈ endpointHandlers base slug endpoints) : x.place ∈ endpoints.map Endpoint.place := by
  obtain ⟨e, he, rfl⟩ := List.mem_map.1 h
  rw [Endpoint.handler_place]
  exact List.mem_map_of_mem he

theorem Collection.handlers_place {c : Collection} {routesPath : String} {x : Handler}
    (h : x ∈ c.handlers routesPath) : x.place ∈ c.places := by
  rcases List.mem_append.1 h with h | h
  · obtain ⟨op, _, rfl⟩ := List.mem_map.1 h
    exact List.mem_cons.2 (.inl (Operation.handler_place ..))
  · exact List.mem_cons_of_mem _ (endpointHandlers_place h)

theorem Global.handlers_place {g : Global} {routesPath : String} {x : Handler}
    (h : x ∈ g.handlers routesPath) : x.place ∈ g.places := by
  rcases List.mem_append.1 h with h | h
  · obtain ⟨op, _, rfl⟩ := List.mem_map.1 h
    exact List.mem_cons.2 (.inl (Operation.handler_place ..))
  · exact List.mem_cons_of_mem _ (endpointHandlers_place h)

theorem Config.handlers_place {c : Config} {x : Handler} (h : x ∈ c.handlers) :
    x.place ∈ c.places := by
  simp only [Config.handlers, Config.places, List.mem_append, List.mem_cons, List.mem_flatMap,
    List.mem_map] at h ⊢
  rcases h with ((⟨collection, hc, h⟩ | ⟨g, hg, h⟩) | ⟨e, he, rfl⟩) | ⟨op, _, rfl⟩
  · exact .inr (.inl (.inl ⟨collection, hc, Collection.handlers_place h⟩))
  · exact .inr (.inl (.inr ⟨g, hg, Global.handlers_place h⟩))
  · exact .inr (.inr ⟨e, he, (Endpoint.handler_place ..).symm⟩)
  · exact .inl (Operation.handler_place ..)

theorem mem_collect {α β : Type} {step : α → Logged (Option β)} {as : List α} {b : β} :
    b ∈ (collect step as).value ↔ ∃ a ∈ as, (step a).value = some b := by
  simp [collect]

variable {ws : Workspace}

theorem placeOf_hasPlace {obj : ObjectRef} (h : ws.HasObject obj) :
    ws.project.HasPlace (placeOf ws obj).file (placeOf ws obj).line := by
  obtain ⟨f, hf, hmem⟩ := h
  have hline : (placeOf ws obj).line = f.lineOf obj.span := by
    simp [placeOf, Workspace.lineOf, hf]
  rw [hline]
  exact Workspace.hasPlace hf (SourceFile.hasLine_of_mem hmem)

theorem readEndpoint_place {obj : ObjectRef} {e : Endpoint}
    (h : (readEndpoint ws obj).value = some e) : e.place = placeOf ws obj := by
  unfold readEndpoint at h
  rw [Logged.value_bind] at h
  split at h
  · cases h
  · cases h
    rfl

variable (h : ws.project.Indexed)
include h

theorem readEndpoints_hasPlace {owner : ObjectRef} (howner : ws.HasObject owner) :
    ∀ place ∈ (readEndpoints ws owner).value.map Endpoint.place,
      ws.project.HasPlace place.file place.line := by
  unfold readEndpoints
  rw [Logged.value_bind]
  split
  · simp
  · intro place hplace
    obtain ⟨e, he, rfl⟩ := List.mem_map.1 hplace
    obtain ⟨obj, hobj, he⟩ := mem_collect.1 he
    rw [readEndpoint_place he]
    exact placeOf_hasPlace ((ws.sources h).propertyArray_holds "endpoints" howner obj hobj)

theorem readCollection_hasPlace {obj : ObjectRef} {c : Collection} (hobj : ws.HasObject obj)
    (hc : (readCollection ws obj).value = some c) :
    ∀ place ∈ c.places, ws.project.HasPlace place.file place.line := by
  unfold readCollection at hc
  rw [Logged.value_bind] at hc
  split at hc
  · cases hc
  · cases hc
    rintro place (_ | ⟨_, hplace⟩)
    · exact placeOf_hasPlace hobj
    · exact readEndpoints_hasPlace h hobj place hplace

theorem readGlobal_hasPlace {obj : ObjectRef} {g : Global} (hobj : ws.HasObject obj)
    (hg : (readGlobal ws obj).value = some g) :
    ∀ place ∈ g.places, ws.project.HasPlace place.file place.line := by
  unfold readGlobal at hg
  rw [Logged.value_bind] at hg
  split at hg
  · cases hg
  · cases hg
    rintro place (_ | ⟨_, hplace⟩)
    · exact placeOf_hasPlace hobj
    · exact readEndpoints_hasPlace h hobj place hplace

theorem readConfig_hasPlace {root : ObjectRef} (hroot : ws.HasObject root) :
    ∀ place ∈ (readConfig ws root).value.places, ws.project.HasPlace place.file place.line := by
  have listed (key : String) := (ws.sources h).propertyArray_holds key hroot
  intro place hplace
  simp only [readConfig, Config.places, Logged.value_bind, Logged.value_pure, List.mem_cons,
    List.mem_append, List.mem_flatMap, mem_collect] at hplace
  rcases hplace with rfl | (⟨c, ⟨obj, hobj, hc⟩, hplace⟩ | ⟨g, ⟨obj, hobj, hg⟩, hplace⟩) | hplace
  · exact placeOf_hasPlace hroot
  · exact readCollection_hasPlace h (listed _ obj hobj) hc place hplace
  · exact readGlobal_hasPlace h (listed _ obj hobj) hg place hplace
  · exact readEndpoints_hasPlace h hroot place hplace

theorem firstArgument_hasObject {calls : List (Nat × Call)}
    (hcalls : ∀ file c, (file, c) ∈ calls → ws.HasNode file c.toNode) :
    ∀ found ∈ (firstArgument ws calls).value, ws.HasObject found.2 := by
  fun_induction firstArgument ws calls with
  | case1 => simp
  | case2 file c rest harg ih => exact ih fun file' c' hc => hcalls file' c' (by simp [hc])
  | case3 file c rest arg harg ih =>
    obtain ⟨f, hf, hmem⟩ := hcalls file c (by simp)
    have hroot := (ws.sources h).resolveObject_holds (o := ⟨file, .call⟩)
      ⟨f, hf, Module.mem_preorder_of_firstArg? hmem harg⟩
    rw [Logged.value_bind]
    split
    · rename_i root heq
      rintro found ⟨⟩
      exact hroot root heq
    · exact ih fun file' c' hc => hcalls file' c' (by simp [hc])

omit h in
theorem callsIn_hasNode {file : Nat} {keep : Call → Bool} {c : Call}
    (hc : c ∈ ws.project.callsIn file keep) : ws.HasNode file c.toNode := by
  unfold Project.callsIn at hc
  cases hf : ws.project.files[file]? with
  | none => simp [hf] at hc
  | some f =>
    rw [hf] at hc
    exact ⟨f, hf, Module.mem_preorder_of_mem_calls (List.mem_filter.1 hc).1⟩

theorem calls_hasNode {keep : Call → Bool} {file : Nat} {c : Call}
    (hc : (file, c) ∈ ws.project.calls keep) : ws.HasNode file c.toNode := by
  obtain ⟨f, hf, hc⟩ := List.mem_flatMap.1 hc
  obtain ⟨call, hcall, heq⟩ := List.mem_map.1 hc
  cases heq
  exact ⟨f, h.getElem?_id hf, Module.mem_preorder_of_mem_calls (List.mem_filter.1 hcall).1⟩

theorem locateIn_hasObject (candidates : List String) :
    ∀ root ∈ (locateIn ws candidates).value, ws.HasObject root := by
  fun_induction locateIn ws candidates with
  | case1 => simp
  | case2 candidate rest _ ih => exact ih
  | case3 candidate rest file _ ih =>
    have hcalls (id : Nat) (c : Call)
        (hc : (id, c) ∈ (ws.project.callsIn file isFactory).map (file, ·)) :
        ws.HasNode id c.toNode := by
      obtain ⟨call, hcall, heq⟩ := List.mem_map.1 hc
      cases heq
      exact callsIn_hasNode hcall
    have hargument := firstArgument_hasObject h hcalls
    have hexport := (ws.sources h).exportedObject_holds file "default"
    rw [Logged.value_bind]
    split
    · rename_i found heq
      rintro root ⟨⟩
      exact hargument _ heq
    · rw [Logged.value_bind]
      split
      · rename_i found heq
        rintro root ⟨⟩
        exact hexport _ heq
      · exact ih

theorem locate_hasPlace (o : CmsOptions) :
    ∀ c ∈ (locate ws o).value, ∀ place ∈ c.places,
      ws.project.HasPlace place.file place.line := by
  unfold locate
  rw [Logged.value_bind]
  split
  · rename_i root heq
    simp only [Logged.value_bind, Logged.value_pure, Option.mem_some_iff, forall_eq']
    exact readConfig_hasPlace h (locateIn_hasObject h _ root heq)
  · rw [Logged.value_bind]
    split
    · rename_i file root heq
      simp only [Logged.value_bind, Logged.value_pure, Option.mem_some_iff, forall_eq']
      exact readConfig_hasPlace h
        (firstArgument_hasObject h (fun _ _ hc => calls_hasNode h hc) _ heq)
    · simp

theorem survey_hasPlace (o : CmsOptions) :
    ∀ x ∈ (survey ws o).value, ws.project.HasPlace x.file x.line := by
  unfold survey
  rw [Logged.value_bind]
  split
  · simp
  · rename_i config heq
    intro x hx
    exact locate_hasPlace h o config heq x.place (Config.handlers_place hx)

end Cms

end RouteAtlas
