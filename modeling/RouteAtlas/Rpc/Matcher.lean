import RouteAtlas.Log
import RouteAtlas.Options.Basic
import RouteAtlas.Pattern.Reader
import RouteAtlas.Script.Name
import RouteAtlas.Text.Split

set_option autoImplicit false

namespace RouteAtlas.Rpc

open Script (Call)

def defaultPatternText : String := "^(?:create|make|build)?[A-Za-z0-9_]*Router$"

def defaultPattern : Pattern :=
  let word (s : String) : Pattern :=
    s.toList.foldr (fun c p => .seq (.oneOf (.single c)) p) .empty
  let part : CharSet :=
    .union (.range 'A' 'Z') (.union (.range 'a' 'z') (.union (.range '0' '9') (.single '_')))
  .seq (.anchor .textStart)
    (.seq (.rounds (.alt (word "create") (.alt (word "make") (word "build"))) 0 (some 1))
      (.seq (.rounds (.oneOf part) 0 none) (.seq (word "Router") (.anchor .textEnd))))

structure Matcher where
  factories : List String
  patternText : String
  pattern : Pattern

namespace Matcher

/-- A pattern that cannot be read is replaced by the usual one. -/
def ofOptions (o : RpcOptions) : Logged Matcher :=
  match o.routerPattern with
  | none => pure ⟨o.factoryNames, defaultPatternText, defaultPattern⟩
  | some text =>
    match Pattern.parse? text with
    | some p => pure ⟨o.factoryNames, text, p⟩
    | none => do
      Logged.warn s!"invalid router pattern `{text}` (...); using `{defaultPatternText}`"
      return ⟨o.factoryNames, defaultPatternText, defaultPattern⟩

def knows (m : Matcher) (name : String) : Bool :=
  m.factories.contains name || m.pattern.isMatch name

def isBuilder (m : Matcher) (name : String) : Bool :=
  (Text.beforeTail? "procedure".toList (name.toList.map Char.toLower)).isSome || m.knows name

def isRouterCall (m : Matcher) (c : Call) : Bool :=
  (c.path?.map m.factories.contains).getD false || (c.name?.map m.knows).getD false

end Matcher

end RouteAtlas.Rpc
