import RouteAtlas.Route.Basic
import RouteAtlas.Text.Blank

set_option autoImplicit false

namespace RouteAtlas.Cms

structure Place where
  file : String
  line : Nat

structure Endpoint where
  path : String
  method : Method
  root : Bool
  place : Place

structure Collection where
  slug : String
  auth : Bool
  upload : Bool
  endpoints : List Endpoint
  place : Place

structure Global where
  slug : String
  endpoints : List Endpoint
  place : Place

structure Config where
  routesPath : String
  collections : List Collection
  globals : List Global
  endpoints : List Endpoint
  place : Place

def normalizeRoutesPath (s : String) : String :=
  let body := Text.trimBy (· = '/') (Text.trim s.toList)
  if body.isEmpty then "" else String.ofList ('/' :: body)

/-- An operation that every collection or global of a kind has. -/
structure Operation where
  name : String
  method : Method
  path : String
  query : List String := []
  body : Option Json := none

def textBody (fields : List String) : Json := .object (fields.map fun f => (f, .string ""))

def emptyBody : Json := .object []

def crudOperations : List Operation :=
  [ { name := "find", method := .get, path := "",
      query := ["depth", "limit", "page", "sort", "where"] },
    { name := "findByID", method := .get, path := "/:id", query := ["depth"] },
    { name := "count", method := .get, path := "/count", query := ["where"] },
    { name := "create", method := .post, path := "", query := ["depth"], body := emptyBody },
    { name := "update", method := .patch, path := "", query := ["where"], body := emptyBody },
    { name := "updateByID", method := .patch, path := "/:id", body := emptyBody },
    { name := "delete", method := .delete, path := "", query := ["where"] },
    { name := "deleteByID", method := .delete, path := "/:id" } ]

def authOperations : List Operation :=
  [ { name := "login", method := .post, path := "/login",
      body := textBody ["email", "password"] },
    { name := "logout", method := .post, path := "/logout" },
    { name := "refresh", method := .post, path := "/refresh-token" },
    { name := "me", method := .get, path := "/me" },
    { name := "forgotPassword", method := .post, path := "/forgot-password",
      body := textBody ["email"] },
    { name := "resetPassword", method := .post, path := "/reset-password",
      body := textBody ["password", "token"] },
    { name := "unlock", method := .post, path := "/unlock", body := textBody ["email"] },
    { name := "verifyEmail", method := .post, path := "/verify/:token" } ]

def globalOperations : List Operation :=
  [ { name := "findOne", method := .get, path := "", query := ["depth"] },
    { name := "update", method := .post, path := "", body := emptyBody } ]

def defaultOperations : List Operation :=
  [ { name := "findPreference", method := .get, path := "/payload-preferences/:key" },
    { name := "updatePreference", method := .post, path := "/payload-preferences/:key",
      body := some (.object [("value", .object [])]) },
    { name := "deletePreference", method := .delete, path := "/payload-preferences/:key" },
    { name := "access", method := .get, path := "/access" } ]

def jsonType : String := "application/json"

def formType : String := "multipart/form-data"

def Operation.handler (op : Operation) (base : String) (place : Place) (source : HandlerSource)
    (contentType name : String) : Handler :=
  let h : Handler :=
    { name := some name, path := RoutePath.joinNormalized [base, op.path], method := op.method,
      file := place.file, line := place.line, source := some source }
  let h := h.withQueryKeys op.query
  match op.body with
  | some body => (h.withBody body).withHeader "Content-Type" contentType
  | none => h

def Endpoint.handler (e : Endpoint) (path : String) (slug : Option String) : Handler :=
  let h : Handler :=
    { path, method := e.method, file := e.place.file, line := e.place.line,
      source := some .endpoint, collectionSlug := slug }
  if e.method.hasBody then h.withHeader "Content-Type" jsonType else h

def endpointHandlers (base slug : String) (endpoints : List Endpoint) : List Handler :=
  endpoints.map fun e => e.handler (RoutePath.joinNormalized [base, e.path]) (some slug)

namespace Collection

def contentType (c : Collection) (op : Operation) : String :=
  if c.upload && op.name = "create" then formType else jsonType

def operations (c : Collection) : List Operation :=
  crudOperations ++ if c.auth then authOperations else []

def handlers (routesPath : String) (c : Collection) : List Handler :=
  let base := RoutePath.joinNormalized [routesPath, c.slug]
  (c.operations.map fun op =>
    { op.handler base c.place .collection (c.contentType op) s!"{c.slug}.{op.name}" with
      collectionSlug := some c.slug }) ++
  endpointHandlers base c.slug c.endpoints

end Collection

def Global.handlers (routesPath : String) (g : Global) : List Handler :=
  let base := RoutePath.joinNormalized [routesPath, "globals", g.slug]
  (globalOperations.map fun op =>
    { op.handler base g.place .global jsonType s!"globals.{g.slug}.{op.name}" with
      collectionSlug := some g.slug }) ++
  endpointHandlers base g.slug g.endpoints

namespace Config

def endpointPath (c : Config) (e : Endpoint) : String :=
  RoutePath.joinNormalized (if e.root then [e.path] else [c.routesPath, e.path])

/-- All handlers of a configuration: collections, globals, endpoints, and what every
configuration has. -/
def handlers (c : Config) : List Handler :=
  c.collections.flatMap (Collection.handlers c.routesPath) ++
  c.globals.flatMap (Global.handlers c.routesPath) ++
  (c.endpoints.map fun e => e.handler (c.endpointPath e) none) ++
  defaultOperations.map fun op =>
    op.handler c.routesPath c.place .default jsonType op.name

end Config

end RouteAtlas.Cms
