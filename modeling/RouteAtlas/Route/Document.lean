import RouteAtlas.Route.Basic

set_option autoImplicit false

namespace RouteAtlas

def DynamicSegment.toJson (d : DynamicSegment) : Json :=
  .object [("name", .string d.name), ("isCatchAll", .bool d.isCatchAll),
    ("isOptional", .bool d.isOptional)]

def StringMap.toJson (m : StringMap) : Json :=
  .object (m.map fun (k, v) => (k, .string v))

namespace Route

def optionalField {α : Type} (name : String) (write : α → Json) :
    Option α → List (String × Json)
  | some value => [(name, write value)]
  | none => []

def fields (r : Route) : List (String × Json) :=
  [("name", .string r.name), ("path", .string r.path), ("method", .string r.method.name),
    ("filePath", .string r.filePath), ("type", .string r.type.name), ("line", Json.nat r.line)] ++
  optionalField "headers" StringMap.toJson r.headers ++
  optionalField "query" StringMap.toJson r.query ++
  optionalField "body" id r.body ++
  (if r.params.isEmpty then [] else [("params", .array (r.params.map DynamicSegment.toJson))]) ++
  (if r.middleware then [("middleware", .bool true)] else []) ++
  optionalField "collectionSlug" .string r.collectionSlug ++
  optionalField "source" (fun s => .string s.name) r.source

def toJson (r : Route) : Json := .object r.fields

end Route

end RouteAtlas
