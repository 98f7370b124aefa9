import RouteAtlas.Disk.Tree
import RouteAtlas.Json.Reader
import RouteAtlas.Options.Basic
import RouteAtlas.Toml.Reader

set_option autoImplicit false

namespace RouteAtlas

namespace FrameworkOptions

/-- A framework is given by its name, or by an object whose only member has that name and an
empty value. -/
def decodeFramework? (isEmpty : Json → Bool) : Json → Option Framework
  | .string s => Framework.ofName? s
  | .object [(name, v)] => if isEmpty v then Framework.ofName? name else none
  | _ => none

def decode? (isEmpty : Json → Bool) (document : Json) : Option FrameworkOptions := do
  let frameworks (field : Option Json) : Option (List Framework) :=
    match field with
    | some v => v.asArray?.bind (·.mapM (decodeFramework? isEmpty))
    | none => some []
  match ← Json.recordFields? ["force", "disable"] document with
  | [force, disable] => return ⟨← frameworks force, ← frameworks disable⟩
  | _ => none

end FrameworkOptions

def decodeField? {α : Type} (usual : α) (decode? : Json → Option α) : Option Json → Option α
  | some v => decode? v
  | none => some usual

namespace RpcOptions

def decode? (document : Json) : Option RpcOptions := do
  let usual : RpcOptions := {}
  let optional : Json → Option (Option String)
    | .null => some none
    | v => v.asString?.map some
  match ← Json.recordFields? ["factory_names", "router_pattern", "endpoint"] document with
  | [factories, pattern, endpoint] =>
    return {
      factoryNames := ← decodeField? usual.factoryNames Json.asStrings? factories
      routerPattern := ← decodeField? usual.routerPattern optional pattern
      endpoint := ← decodeField? usual.endpoint Json.asString? endpoint }
  | _ => none

end RpcOptions

namespace CmsOptions

def decode? (document : Json) : Option CmsOptions := do
  let usual : CmsOptions := {}
  match ← Json.recordFields? ["config_files"] document with
  | [files] => return ⟨← decodeField? usual.configFiles Json.asStrings? files⟩
  | _ => none

end CmsOptions

namespace ScanOptions

def decode? (isEmpty : Json → Bool) (document : Json) : Option ScanOptions := do
  match ← Json.recordFields? ["frameworks", "rpc", "cms"] document with
  | [frameworks, rpc, cms] =>
    return {
      frameworks := ← decodeField? {} (FrameworkOptions.decode? isEmpty) frameworks
      rpc := ← decodeField? {} RpcOptions.decode? rpc
      cms := ← decodeField? {} CmsOptions.decode? cms }
  | _ => none

def ofJson? (document : Json) : Option ScanOptions :=
  decode? (fun | .null => true | _ => false) document

/-- The options in a TOML text, where an empty value is a table without entries. -/
def ofToml? (text : String) : Option ScanOptions := do
  let document ← Toml.read? text
  decode? (fun | .object [] => true | _ => false) document

def toJson (o : ScanOptions) : Json :=
  let strings (ss : List String) : Json := .array (ss.map .string)
  .object [
    ("frameworks", .object [("force", strings (o.frameworks.force.map (·.name))),
      ("disable", strings (o.frameworks.disable.map (·.name)))]),
    ("rpc", .object [("factory_names", strings o.rpc.factoryNames),
      ("router_pattern", (o.rpc.routerPattern.map Json.string).getD .null),
      ("endpoint", .string o.rpc.endpoint)]),
    ("cms", .object [("config_files", strings o.cms.configFiles)])]

inductive LoadError where
  | unreadable (path : String) (reason : ReadError)
  | malformed (path : String)

def load (disk : Disk) (path : String) : Except LoadError ScanOptions :=
  match disk.readText path with
  | .error reason => .error (.unreadable path reason)
  | .ok text =>
    match ofToml? text with
    | some o => .ok o
    | none => .error (.malformed path)

end ScanOptions

end RouteAtlas
