import Mathlib.Algebra.GroupWithZero.Nat
import RouteAtlas.Proofs.CanonicalPath
import RouteAtlas.Proofs.ConfigPlaces

set_option autoImplicit false

namespace RouteAtlas

theorem StringMap.insert_insert (key value other : String) (m : StringMap) :
    insert key value (insert key other m) = insert key value m := by
  induction m with
  | nil => simp [insert]
  | cons entry rest ih =>
    obtain ⟨k, v⟩ := entry
    by_cases hlt : key < k
    · simp [insert, hlt]
    · by_cases heq : key = k
      · simp [insert, heq]
      · simp [insert, hlt, heq, ih]

theorem StringMap.lookup_insert (key value other : String) (m : StringMap) :
    (insert key value m).lookup other = if other = key then some value else m.lookup other := by
  have hcons (k v : String) (rest : StringMap) :
      ((k, v) :: rest).lookup other = if other = k then some v else rest.lookup other := by
    rw [List.lookup_cons]
    by_cases h : other = k
    · simp [h]
    · rw [if_neg h, beq_eq_false_iff_ne.2 h]
  induction m with
  | nil => exact hcons key value []
  | cons entry rest ih =>
    obtain ⟨k, v⟩ := entry
    by_cases hlt : key < k
    · rw [insert, if_pos hlt, hcons]
    · by_cases heq : key = k
      · rw [insert, if_neg hlt, if_pos heq, hcons, hcons, ← heq]
        split <;> rfl
      · rw [insert, if_neg hlt, if_neg heq, hcons, hcons, ih]
        by_cases h : other = k
        · rw [if_pos h, if_neg (h ▸ Ne.symm heq), if_pos h]
        · rw [if_neg h, if_neg h]

theorem Handler.lookup_withHeader (h : Handler) (key value other : String) :
    (h.withHeader key value).headers.lookup other =
      if other = key then some value else h.headers.lookup other :=
  StringMap.lookup_insert key value other h.headers

theorem Handler.withHeader_withHeader (h : Handler) (key value other : String) :
    (h.withHeader key other).withHeader key value = h.withHeader key value := by
  simp only [withHeader, StringMap.insert_insert]

namespace Cms

open RoutePath

/-! ## Paths -/

theorem Operation.handler_path (op : Operation) (base : String) (place : Place)
    (source : HandlerSource) (contentType name : String) :
    (op.handler base place source contentType name).path = joinNormalized [base, op.path] := by
  simp only [Operation.handler]
  split <;> rfl

theorem Operation.handler_contentType {op : Operation} {body : Json} (h : op.body = some body)
    (base : String) (place : Place) (source : HandlerSource) (contentType other name : String) :
    op.handler base place source contentType name =
      (op.handler base place source other name).withHeader "Content-Type" contentType := by
  simp only [Operation.handler, h, Handler.withHeader_withHeader]

theorem Endpoint.handler_path (e : Endpoint) (path : String) (slug : Option String) :
    (e.handler path slug).path = path := by
  simp only [Endpoint.handler]
  split <;> rfl

theorem path_below (owner : List String) (text : String) :
    joinNormalized [joinNormalized owner, text] = spelling (owner ++ [text]) := by
  rw [joinNormalized_staged, joinNormalized_eq_spelling]

def pathTextsBelow (owner : List String) (operations : List Operation)
    (endpoints : List Endpoint) : List (List String) :=
  operations.map (fun op => owner ++ [op.path]) ++ endpoints.map fun e => owner ++ [e.path]

def Collection.pathTexts (routesPath : String) (k : Collection) : List (List String) :=
  pathTextsBelow [routesPath, k.slug] k.operations k.endpoints

def Global.pathTexts (routesPath : String) (g : Global) : List (List String) :=
  pathTextsBelow [routesPath, "globals", g.slug] globalOperations g.endpoints

def Endpoint.pathTexts (routesPath : String) (e : Endpoint) : List String :=
  if e.root then [e.path] else [routesPath, e.path]

/-- The texts of which the path of each handler is made, in the order of the handlers. -/
def Config.pathTexts (c : Config) : List (List String) :=
  c.collections.flatMap (Collection.pathTexts c.routesPath) ++
  c.globals.flatMap (Global.pathTexts c.routesPath) ++
  c.endpoints.map (Endpoint.pathTexts c.routesPath) ++
  defaultOperations.map fun op => [c.routesPath, op.path]

theorem endpointHandlers_path (owner : List String) (slug : String) (endpoints : List Endpoint) :
    (endpointHandlers (joinNormalized owner) slug endpoints).map (·.path) =
      endpoints.map fun e => spelling (owner ++ [e.path]) := by
  simp only [endpointHandlers, List.map_map, Function.comp_def, Endpoint.handler_path, path_below]

theorem Collection.handlers_path (routesPath : String) (k : Collection) :
    (k.handlers routesPath).map (·.path) = (k.pathTexts routesPath).map spelling := by
  simp only [Collection.handlers, Collection.pathTexts, pathTextsBelow, List.map_append,
    List.map_map, endpointHandlers_path, Function.comp_def, Operation.handler_path, path_below]

theorem Global.handlers_path (routesPath : String) (g : Global) :
    (g.handlers routesPath).map (·.path) = (g.pathTexts routesPath).map spelling := by
  simp only [Global.handlers, Global.pathTexts, pathTextsBelow, List.map_append, List.map_map,
    endpointHandlers_path, Function.comp_def, Operation.handler_path, path_below]

theorem Config.endpointPath_eq (c : Config) (e : Endpoint) :
    c.endpointPath e = spelling (e.pathTexts c.routesPath) := by
  rw [endpointPath, joinNormalized_eq_spelling, Endpoint.pathTexts]

/-- Every path is spelled by the prefix of the configuration, what the owner is called and the text
of the operation or endpoint, and by its own text alone where an endpoint is mounted at the root. It
makes no difference that the texts of the owner are joined first. -/
theorem handler_paths_spelled :
    (∀ c : Config, c.handlers.map (·.path) = c.pathTexts.map spelling) ∧
    ∀ pieces more : List String,
      joinNormalized (joinNormalized pieces :: more) = joinNormalized (pieces ++ more) := by
  refine ⟨fun c => ?_, joinNormalized_staged⟩
  simp only [Config.handlers, Config.pathTexts, List.map_append, List.map_flatMap, List.map_map,
    Collection.handlers_path, Global.handlers_path, Function.comp_def, Endpoint.handler_path,
    Operation.handler_path, Config.endpointPath_eq, joinNormalized_eq_spelling]

def bracketedConfig : Config :=
  ⟨"/api/[tenant]", [⟨"[[...tags]]", false, false, [], ⟨"payload.config.ts", 2⟩⟩], [], [],
    ⟨"payload.config.ts", 1⟩⟩

theorem bracketed_owner_spelled :
    (bracketedConfig.handlers.map (·.path)).take 3 =
      ["/api/:tenant/:tags*", "/api/:tenant/:tags*/:id", "/api/:tenant/:tags*/count"] ∧
    joinNormalized [joinNormalized ["/api/[tenant]", "[[...tags]]"], "/:id"] =
      "/api/:tenant/:tags*/:id" := by
  obtain ⟨hpaths, hstaged⟩ := handler_paths_spelled
  rw [hpaths, hstaged]
  decide +kernel

/-! ## Blocks -/

/-- What tells the handlers of a configuration apart: all but what a request looks like. -/
structure Mark where
  name : Option String
  method : Method
  source : Option HandlerSource
  slug : Option String
  place : Place

def markOf (x : Handler) : Mark := ⟨x.name, x.method, x.source, x.collectionSlug, x.place⟩

theorem markOf_owned (x : Handler) (slug : Option String) :
    markOf { x with collectionSlug := slug } = { markOf x with slug := slug } := rfl

theorem Operation.handler_mark (op : Operation) (base : String) (place : Place)
    (source : HandlerSource) (contentType name : String) :
    markOf (op.handler base place source contentType name) =
      ⟨some name, op.method, some source, none, place⟩ := by
  simp only [Operation.handler]
  split <;> rfl

def Endpoint.mark (slug : Option String) (e : Endpoint) : Mark :=
  ⟨none, e.method, some .endpoint, slug, e.place⟩

theorem Endpoint.handler_mark (e : Endpoint) (path : String) (slug : Option String) :
    markOf (e.handler path slug) = e.mark slug := by
  simp only [Endpoint.handler]
  split <;> rfl

def Collection.marks (k : Collection) (operations : List Operation) : List Mark :=
  operations.map fun op =>
    ⟨some s!"{k.slug}.{op.name}", op.method, some .collection, some k.slug, k.place⟩

def Global.marks (g : Global) : List Mark :=
  globalOperations.map fun op =>
    ⟨some s!"globals.{g.slug}.{op.name}", op.method, some .global, some g.slug, g.place⟩

/-- The marks of all handlers, block by block. -/
def Config.marks (c : Config) : List Mark :=
  c.collections.flatMap (fun k =>
    k.marks crudOperations ++ (if k.auth then k.marks authOperations else []) ++
      k.endpoints.map (Endpoint.mark (some k.slug))) ++
  c.globals.flatMap (fun g => g.marks ++ g.endpoints.map (Endpoint.mark (some g.slug))) ++
  c.endpoints.map (Endpoint.mark none) ++
  defaultOperations.map fun op => ⟨some op.name, op.method, some .default, none, c.place⟩

theorem endpointHandlers_marks (base slug : String) (endpoints : List Endpoint) :
    (endpointHandlers base slug endpoints).map markOf =
      endpoints.map (Endpoint.mark (some slug)) := by
  simp only [endpointHandlers, List.map_map, Function.comp_def, Endpoint.handler_mark]

namespace Collection

variable (routesPath : String) (k : Collection)

def operationHandler (op : Operation) : Handler :=
  { op.handler (joinNormalized [routesPath, k.slug]) k.place .collection (k.contentType op)
      s!"{k.slug}.{op.name}" with
    collectionSlug := some k.slug }

theorem handlers_eq :
    k.handlers routesPath =
      crudOperations.map (k.operationHandler routesPath) ++
        (if k.auth then authOperations.map (k.operationHandler routesPath) else []) ++
        endpointHandlers (joinNormalized [routesPath, k.slug]) k.slug k.endpoints := by
  rw [handlers, operations, List.map_append]
  cases k.auth <;> rfl

theorem operationHandler_marks (operations : List Operation) :
    (operations.map (k.operationHandler routesPath)).map markOf = k.marks operations := by
  simp only [List.map_map, Function.comp_def, operationHandler, markOf_owned,
    Operation.handler_mark, marks]

theorem handlers_marks :
    (k.handlers routesPath).map markOf =
      k.marks crudOperations ++ (if k.auth then k.marks authOperations else []) ++
        k.endpoints.map (Endpoint.mark (some k.slug)) := by
  rw [handlers_eq, List.map_append, List.map_append, operationHandler_marks,
    endpointHandlers_marks, apply_ite (List.map markOf), operationHandler_marks, List.map_nil]

end Collection

theorem Global.handlers_marks (routesPath : String) (g : Global) :
    (g.handlers routesPath).map markOf =
      g.marks ++ g.endpoints.map (Endpoint.mark (some g.slug)) := by
  simp only [Global.handlers, List.map_append, endpointHandlers_marks, List.map_map,
    Function.comp_def, markOf_owned, Operation.handler_mark, marks]

theorem Config.handlers_marks (c : Config) : c.handlers.map markOf = c.marks := by
  simp only [Config.handlers, Config.marks, List.map_append, List.map_flatMap, List.map_map,
    Collection.handlers_marks, Global.handlers_marks, Function.comp_def, Endpoint.handler_mark,
    Operation.handler_mark]

/-! ## The number of handlers -/

theorem Collection.handlers_length (routesPath : String) (k : Collection) :
    (k.handlers routesPath).length = 8 + (if k.auth then 8 else 0) + k.endpoints.length := by
  rw [handlers_eq, List.length_append, List.length_append, List.length_map, apply_ite List.length,
    List.length_map, endpointHandlers, List.length_map]
  rfl

theorem Global.handlers_length (routesPath : String) (g : Global) :
    (g.handlers routesPath).length = 2 + g.endpoints.length := by
  rw [Global.handlers, List.length_append, List.length_map, endpointHandlers, List.length_map]
  rfl

theorem Config.handlers_length (c : Config) :
    c.handlers.length =
      (c.collections.map fun k => 8 + (if k.auth then 8 else 0) + k.endpoints.length).sum +
      (c.globals.map fun g => 2 + g.endpoints.length).sum + c.endpoints.length + 4 := by
  simp only [Config.handlers, List.length_append, List.length_flatMap, List.length_map,
    Collection.handlers_length, Global.handlers_length]
  rfl

/-! ## Changing one collection -/

def Config.withCollections (c : Config) (collections : List Collection) : Config :=
  { c with collections }

theorem Config.withCollections_handlers (c : Config) (before : List Collection) (k : Collection)
    (after : List Collection) :
    (c.withCollections (before ++ k :: after)).handlers =
      before.flatMap (Collection.handlers c.routesPath) ++ k.handlers c.routesPath ++
        (c.withCollections after).handlers := by
  simp only [withCollections, handlers, List.flatMap_append, List.flatMap_cons, List.append_assoc]
  rfl

namespace Collection

variable (routesPath : String) (k : Collection)

theorem handlers_auth (auth : Bool) :
    { k with auth }.handlers routesPath =
      crudOperations.map (k.operationHandler routesPath) ++
        (if auth then authOperations.map (k.operationHandler routesPath) else []) ++
        endpointHandlers (joinNormalized [routesPath, k.slug]) k.slug k.endpoints :=
  handlers_eq routesPath { k with auth }

theorem map_operationHandler_upload {operations : List Operation}
    (h : ∀ op ∈ operations, op.name ≠ "create") (upload : Bool) :
    operations.map ({ k with upload }.operationHandler routesPath) =
      operations.map (k.operationHandler routesPath) := by
  refine List.map_congr_left fun op hop => ?_
  simp only [operationHandler, contentType, h op hop, decide_false, Bool.and_false]

def createOperation : Operation :=
  { name := "create", method := .post, path := "", query := ["depth"], body := emptyBody }

theorem crudOperations_eq :
    crudOperations = crudOperations.take 3 ++ createOperation :: crudOperations.drop 4 := rfl

theorem createHandler_name :
    (k.operationHandler routesPath createOperation).name = some s!"{k.slug}.create" :=
  congrArg some (@String.append_assoc k.slug "." "create")

theorem createHandler_upload (upload : Bool) :
    { k with upload }.operationHandler routesPath createOperation =
      (k.operationHandler routesPath createOperation).withHeader "Content-Type"
        (if upload then formType else jsonType) := by
  have htype : { k with upload }.contentType createOperation =
      if upload then formType else jsonType := by
    cases upload <;> rfl
  have hheader := Operation.handler_contentType (rfl : createOperation.body = some emptyBody)
    (joinNormalized [routesPath, k.slug]) k.place .collection
    (if upload then formType else jsonType) (k.contentType createOperation)
    s!"{k.slug}.{createOperation.name}"
  rw [operationHandler, htype]
  exact congrArg (fun x : Handler => { x with collectionSlug := some k.slug }) hheader

def handlersBehindCreate : List Handler :=
  (crudOperations.drop 4).map (k.operationHandler routesPath) ++
    (if k.auth then authOperations.map (k.operationHandler routesPath) else []) ++
    endpointHandlers (joinNormalized [routesPath, k.slug]) k.slug k.endpoints

theorem handlers_eq_create :
    k.handlers routesPath =
      (crudOperations.take 3).map (k.operationHandler routesPath) ++
        k.operationHandler routesPath createOperation :: k.handlersBehindCreate routesPath := by
  rw [handlers_eq, handlersBehindCreate]
  conv_lhs => rw [crudOperations_eq, List.map_append, List.map_cons]
  simp only [List.append_assoc, List.cons_append]

theorem handlersBehindCreate_upload (upload : Bool) :
    { k with upload }.handlersBehindCreate routesPath = k.handlersBehindCreate routesPath := by
  simp only [handlersBehindCreate]
  rw [map_operationHandler_upload routesPath k (by decide : ∀ op ∈ crudOperations.drop 4, _),
    map_operationHandler_upload routesPath k (by decide : ∀ op ∈ authOperations, _)]

/-- Only the handler for creating looks at `upload`, for the one header that it has. -/
theorem handlers_upload (upload : Bool) :
    { k with upload }.handlers routesPath =
      (crudOperations.take 3).map (k.operationHandler routesPath) ++
        (k.operationHandler routesPath createOperation).withHeader "Content-Type"
          (if upload then formType else jsonType) :: k.handlersBehindCreate routesPath := by
  rw [handlers_eq_create, createHandler_upload, handlersBehindCreate_upload,
    map_operationHandler_upload routesPath k (by decide)]

end Collection

/-- The handlers of a configuration have the marks of its blocks, in order, and there are as many as
the blocks hold. Where one collection is replaced by another, the handlers of all other blocks stay
as they are. With `auth` a block has eight more handlers, right behind its first eight. With `upload`
the handler for creating takes a form instead of JSON, and nothing else is different. -/
theorem handlers_stand_in_blocks :
    (∀ c : Config, c.handlers.map markOf = c.marks ∧
      c.handlers.length =
        (c.collections.map fun k => 8 + (if k.auth then 8 else 0) + k.endpoints.length).sum +
        (c.globals.map fun g => 2 + g.endpoints.length).sum + c.endpoints.length + 4) ∧
    (∀ (c : Config) (before : List Collection) (k : Collection) (after : List Collection),
      (c.withCollections (before ++ k :: after)).handlers =
        before.flatMap (Collection.handlers c.routesPath) ++ k.handlers c.routesPath ++
          (c.withCollections after).handlers) ∧
    ∀ (routesPath : String) (k : Collection),
      (∃ crud auth own : List Handler,
        crud.map markOf = k.marks crudOperations ∧ crud.length = 8 ∧
        auth.map markOf = k.marks authOperations ∧ auth.length = 8 ∧
        { k with auth := false }.handlers routesPath = crud ++ own ∧
        { k with auth := true }.handlers routesPath = crud ++ auth ++ own) ∧
      ∃ (first : List Handler) (plain form : Handler) (rest : List Handler),
        first.length = 3 ∧ plain.name = some s!"{k.slug}.create" ∧
        { k with upload := false }.handlers routesPath = first ++ plain :: rest ∧
        { k with upload := true }.handlers routesPath = first ++ form :: rest ∧
        plain.headers.lookup "Content-Type" = some "application/json" ∧
        form.headers.lookup "Content-Type" = some "multipart/form-data" ∧
        (∀ key, key ≠ "Content-Type" → form.headers.lookup key = plain.headers.lookup key) ∧
        { form with headers := plain.headers } = plain := by
  refine ⟨fun c => ⟨c.handlers_marks, c.handlers_length⟩, Config.withCollections_handlers,
    fun routesPath k => ⟨?_, ?_⟩⟩
  · refine ⟨crudOperations.map (k.operationHandler routesPath),
      authOperations.map (k.operationHandler routesPath),
      endpointHandlers (joinNormalized [routesPath, k.slug]) k.slug k.endpoints,
      k.operationHandler_marks routesPath _, rfl, k.operationHandler_marks routesPath _, rfl,
      ?_, k.handlers_auth routesPath true⟩
    rw [k.handlers_auth routesPath false]
    rfl
  · let create := k.operationHandler routesPath Collection.createOperation
    refine ⟨_, create.withHeader "Content-Type" jsonType, create.withHeader "Content-Type" formType,
      _, rfl, k.createHandler_name routesPath, k.handlers_upload routesPath false,
      k.handlers_upload routesPath true, ?_, ?_, fun key hkey => ?_, rfl⟩
    · rw [Handler.lookup_withHeader, if_pos rfl, jsonType]
    · rw [Handler.lookup_withHeader, if_pos rfl, formType]
    · rw [Handler.lookup_withHeader, Handler.lookup_withHeader, if_neg hkey, if_neg hkey]

def media (upload : Bool) : Collection :=
  ⟨"media", true, upload, [⟨"/resize", .post, false, ⟨"media.ts", 9⟩⟩], ⟨"media.ts", 2⟩⟩

def mediaConfig (upload : Bool) : Config :=
  ⟨"/api", [media upload], [], [], ⟨"payload.config.ts", 1⟩⟩

theorem upload_takes_form :
    (mediaConfig true).handlers.length = 21 ∧
      ∃ (first : List Handler) (plain form : Handler) (rest : List Handler),
        plain.name = some "media.create" ∧
        (mediaConfig false).handlers = first ++ plain :: rest ∧
        (mediaConfig true).handlers = first ++ form :: rest ∧
        plain.headers.lookup "Content-Type" = some "application/json" ∧
        form.headers.lookup "Content-Type" = some "multipart/form-data" := by
  obtain ⟨hmarks, hblocks, hchange⟩ := handlers_stand_in_blocks
  obtain ⟨_, first, plain, form, rest, _, hname, hplain, hform, hjson, hdata, _⟩ :=
    hchange "/api" (media true)
  have hconfig (upload : Bool) : (mediaConfig upload).handlers =
      (media upload).handlers "/api" ++ ((mediaConfig upload).withCollections []).handlers :=
    hblocks (mediaConfig upload) [] (media upload) []
  refine ⟨(hmarks (mediaConfig true)).2, first, plain, form,
    rest ++ ((mediaConfig true).withCollections []).handlers, hname, ?_, ?_, hjson, hdata⟩
  · rw [hconfig, ← List.cons_append, ← List.append_assoc]
    exact congrArg (· ++ _) hplain
  · rw [hconfig, ← List.cons_append, ← List.append_assoc]
    exact congrArg (· ++ _) hform

end Cms

end RouteAtlas
