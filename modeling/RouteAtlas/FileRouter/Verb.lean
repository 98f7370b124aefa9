import RouteAtlas.Route.Method
import RouteAtlas.Script.Name

set_option autoImplicit false

/-!
# Verbs in a handler file

A file under `app` exports one function for each verb. A file under `pages/api` exports one
handler, and its verbs are those that the request method is compared with.
-/
namespace RouteAtlas.FileRouter

open Script (Node Item Module Span ExportSpecifier)

def middlewareNames : List String :=
  ["NextRequest", "NextResponse", "NextApiRequest", "NextApiResponse", "withAuth", "middleware",
    "next"]

def usesMiddleware (m : Module) : Bool :=
  m.preorder.any fun n => (n.name?.map middlewareNames.contains).getD false

def firstOfEach {α : Type} (verb : α → Method) : List Method → List α → List α
  | _, [] => []
  | seen, a :: rest =>
    if seen.contains (verb a) then firstOfEach verb seen rest
    else a :: firstOfEach verb (verb a :: seen) rest

/-- The verbs that a declaration exports, and where they are declared. A function begins with
the export itself. -/
def declaredVerbs (exportSpan : Span) : Node → List (Method × Span)
  | .functionDef _ (.ident _ name) _ => ((Method.ofName? name).map fun m => (m, exportSpan)).toList
  | .varDecls _ declarators =>
    declarators.filterMap fun
      | .declarator span (.ident _ name) _ _ => (Method.ofName? name).map fun m => (m, span)
      | _ => none
  | _ => []

def exportedName? : ExportSpecifier → Option (String × Span)
  | .named span _ orig exported => ((exported.getD orig).keyName?).map fun name => (name, span)
  | .namespace _ => none

def itemVerbs : Item → List (Method × Span)
  | .exportDecl span decl => declaredVerbs span decl
  | .exportNamed _ false specifiers _ _ =>
    specifiers.filterMap fun s => do
      let (name, span) ← exportedName? s
      return (← Method.ofName? name, span)
  | _ => []

/-- The verbs that a module exports, each where it is exported first. -/
def exportedVerbs (m : Module) : List (Method × Span) :=
  firstOfEach (·.1) [] (m.items.flatMap itemVerbs)

def defaultExport? (m : Module) : Option Span :=
  m.items.findSome? fun
    | .exportDefaultDecl span _ => some span
    | .exportDefaultExpr span _ => some span
    | .exportNamed span _ specifiers _ _ =>
      if specifiers.any fun
        | .named _ _ _ (some (.ident _ "default")) => true
        | _ => false
      then some span else none
    | _ => none

def caseMethods : List String := ["toUpperCase", "toLowerCase"]

/-- Whether an expression stands for the method of the request: `req.method`, a plain `method`,
or one of them in another case. -/
def isMethodRef (n : Node) : Bool :=
  match _h : n.unwrap with
  | .ident _ name => name = "method"
  | .member _ _ property => property.plainProperty? = some "method"
  | .call _ callee _ _ =>
    match _h' : callee.unwrap with
    | .member _ receiver property =>
      (property.plainProperty?.map caseMethods.contains).getD false && isMethodRef receiver
    | _ => false
  | _ => false
termination_by sizeOf n
decreasing_by
  have h1 := Node.sizeOf_unwrap_le n
  have h2 := Node.sizeOf_unwrap_le callee
  rw [_h] at h1
  rw [_h'] at h2
  simp at h1 h2
  omega

def constantVerb? (n : Node) : Option Method :=
  n.constantText?.bind fun s => (Method.parse s).toOption

def comparedVerbs : Node → List Method
  | .comparison _ left right =>
    if isMethodRef left then (constantVerb? right).toList
    else if isMethodRef right then (constantVerb? left).toList
    else []
  | .switch _ subject cases =>
    if isMethodRef subject then
      cases.filterMap fun
        | .switchCase _ test _ => test.bind constantVerb?
        | _ => none
    else []
  | _ => []

def handledVerbs (m : Module) : List Method :=
  firstOfEach id [] (m.preorder.flatMap comparedVerbs)

end RouteAtlas.FileRouter
