import RouteAtlas.Json.Value
import RouteAtlas.Route.Method
import RouteAtlas.Route.Segment

set_option autoImplicit false

namespace RouteAtlas

/-- A map with string keys: pairs in increasing order of their keys. -/
abbrev StringMap := List (String × String)

namespace StringMap

def insert (key value : String) : StringMap → StringMap
  | [] => [(key, value)]
  | (k, v) :: rest =>
    if key < k then (key, value) :: (k, v) :: rest
    else if key = k then (key, value) :: rest
    else (k, v) :: insert key value rest

end StringMap

inductive RouteType where
  | fileRouterApp
  | fileRouterPages
  | rpc
  | controller
  | configCms
  deriving DecidableEq, Repr

def RouteType.name : RouteType → String
  | .fileRouterApp => "file-router-app"
  | .fileRouterPages => "file-router-pages"
  | .rpc => "rpc"
  | .controller => "controller"
  | .configCms => "config-cms"

def RouteType.all : List RouteType :=
  [.fileRouterApp, .fileRouterPages, .rpc, .controller, .configCms]

inductive HandlerSource where
  | collection
  | global
  | endpoint
  | default
  deriving DecidableEq, Repr

def HandlerSource.name : HandlerSource → String
  | .collection => "collection"
  | .global => "global"
  | .endpoint => "endpoint"
  | .default => "default"

def HandlerSource.all : List HandlerSource := [.collection, .global, .endpoint, .default]

structure Handler where
  name : Option String := none
  path : String
  method : Method
  file : String
  line : Nat
  collectionSlug : Option String := none
  source : Option HandlerSource := none
  headers : StringMap := []
  query : StringMap := []
  body : Option Json := none
  middleware : Bool := false

namespace Handler

def named (h : Handler) (name : String) : Handler := { h with name := some name }

def withHeader (h : Handler) (key value : String) : Handler :=
  { h with headers := StringMap.insert key value h.headers }

def withQueryKeys (h : Handler) (keys : List String) : Handler :=
  { h with query := keys.foldl (fun q k => StringMap.insert k "" q) h.query }

def withBody (h : Handler) (body : Json) : Handler := { h with body := some body }

end Handler

structure Route where
  name : String
  path : String
  method : Method
  filePath : String
  type : RouteType
  line : Nat
  headers : Option StringMap
  query : Option StringMap
  body : Option Json
  params : List DynamicSegment
  middleware : Bool
  collectionSlug : Option String
  source : Option HandlerSource

def StringMap.nonEmpty? (m : StringMap) : Option StringMap := if m.isEmpty then none else some m

/-- The route of a handler. Without a name of its own it is called by verb and path. -/
def Handler.toRoute (type : RouteType) (h : Handler) : Route where
  name := h.name.getD s!"{h.method.name} {h.path}"
  path := h.path
  method := h.method
  filePath := h.file
  type := type
  line := h.line
  headers := StringMap.nonEmpty? h.headers
  query := StringMap.nonEmpty? h.query
  body := h.body
  params := RoutePath.parameters h.path
  middleware := h.middleware
  collectionSlug := h.collectionSlug
  source := h.source

def gatherRoutes (groups : List (RouteType × List Handler)) : List Route :=
  groups.flatMap fun (type, handlers) => handlers.map (·.toRoute type)

end RouteAtlas
