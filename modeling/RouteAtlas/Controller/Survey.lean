import RouteAtlas.Project.Basic
import RouteAtlas.Route.Basic

set_option autoImplicit false

namespace RouteAtlas.Controller

open Script (Node Call Module Span)

/-- The name of a decorator and its arguments, which it may be written without. -/
def decoratorCall? (d : Node) : Option (String × List Node) :=
  match d.unwrap with
  | .ident _ name => some (name, [])
  | .call span callee args types =>
    ((Call.mk span callee args types).name?).map fun name => (name, args)
  | _ => none

def verbsOf : String → List Method
  | "Get" => [.get]
  | "Post" => [.post]
  | "Put" => [.put]
  | "Patch" => [.patch]
  | "Delete" => [.delete]
  | "Head" => [.head]
  | "Options" => [.options]
  | "All" => [.get, .post, .put, .patch, .delete]
  | _ => []

def firstText? (args : List Node) : Option String :=
  args.head?.bind fun arg => arg.withoutSpread.constantText?

def entryPath? : Node → Option String
  | .keyValue _ key value => if key.keyName? = some "path" then value.constantText? else none
  | _ => none

/-- The path that an argument of a decorator gives: a text, the first text of an array, or the text
under the key `path` of an object. -/
def argumentPath? (arg : Node) : Option String :=
  match arg.unwrap with
  | .array _ elements => elements.findSome? fun e => e.withoutSpread.constantText?
  | .object _ properties => properties.findSome? entryPath?
  | e => e.constantText?

def decoratorPath? (args : List Node) : Option String :=
  args.head?.bind fun arg => argumentPath? arg.withoutSpread

def controllerPath? (decorators : List Node) : Option String :=
  decorators.findSome? fun d =>
    match decoratorCall? d with
    | some ("Controller", args) => some ((decoratorPath? args).getD "")
    | _ => none

/-- The first decorator that stands for verbs, with its arguments. -/
def verbDecorator? (decorators : List Node) : Option (List Method × List Node) :=
  (decorators.filterMap decoratorCall?).findSome? fun (name, args) =>
    if (verbsOf name).isEmpty then none else some (verbsOf name, args)

def parameterDecorators (params : List Node) : List (String × List Node) :=
  params.flatMap fun
    | .param _ decorators _ => decorators.filterMap decoratorCall?
    | _ => []

def describe (h : Handler) : String × List Node → Handler
  | ("Body", _) => if h.method.hasBody then h.withBody (.object []) else h
  | ("Query", args) =>
    match firstText? args with
    | some key => h.withQueryKeys [key]
    | none => h
  | ("Headers", args) =>
    match firstText? args with
    | some key => h.withHeader key ""
    | none => h
  | _ => h

structure Scope where
  file : SourceFile
  globalPath : String
  className : String
  classPath : String

def memberHandlers (s : Scope) : Node → List Handler
  | .method _ key params decorators _ =>
    match key.keyName?, verbDecorator? decorators with
    | some methodName, some (verbs, args) =>
      let path :=
        RoutePath.joinNormalized [s.globalPath, s.classPath, (decoratorPath? args).getD ""]
      verbs.map fun verb =>
        (parameterDecorators params).foldl describe
          { name := some s!"{s.className}.{methodName}"
            path := path
            method := verb
            file := s.file.path
            line := s.file.lineOf key.span }
    | _, _ => []
  | _ => []

def classHandlers (f : SourceFile) (globalPath : String) : Node → Logged (List Handler)
  | .classDef _ name decorators members _ =>
    match controllerPath? decorators with
    | none => pure []
    | some classPath => do
      let className := (name.bind Node.name?).getD ""
      let handlers := members.flatMap (memberHandlers ⟨f, globalPath, className, classPath⟩)
      Logged.debug s!"{f.relPath}: controller {className} has {handlers.length} routes"
      return handlers
  | _ => pure []

/-- The prefix that the first call of `setGlobalPrefix` with a constant argument sets. -/
def globalPath? (p : Project) : Option String :=
  (p.calls fun c => c.name? = some "setGlobalPrefix").findSome? fun (_, c) => firstText? c.args

def survey (p : Project) : Logged (List Handler) := do
  let globalPath := (globalPath? p).getD ""
  if !globalPath.isEmpty then Logged.debug s!"controller global prefix `{globalPath}`"
  let handlers ←
    Logged.gather (fun f => Logged.gather (classHandlers f globalPath) f.module.preorder) p.files
  Logged.info s!"controller: {handlers.length} routes"
  return handlers

end RouteAtlas.Controller
