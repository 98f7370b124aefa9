import RouteAtlas.Project.Basic
import RouteAtlas.Rpc.Chain

set_option autoImplicit false

/-!
# Router sites

A site is a call that makes a router, with what is written around it: the procedures it has and
the routers that are mounted in it.
-/
namespace RouteAtlas.Rpc

open Script (Node Call Span Module)

structure Procedure where
  name : String
  kind : ProcedureKind
  line : Nat
  deriving DecidableEq

inductive MountTarget where
  /-- A router call that is written in place. -/
  | inline (key : Span)
  /-- A name: a variable with a router or a procedure, or an import. -/
  | ref (name : String)
  deriving DecidableEq

structure Mount where
  key : String
  target : MountTarget
  deriving DecidableEq

structure RouterSite where
  file : Nat
  name : String
  /-- The variable or function through which the router is reached. -/
  binding : Option String
  callee : Option String
  key : Span
  procedures : List Procedure
  mounts : List Mount

inductive Binder where
  | variable (name : String)
  | property (name : String)
  | function (name : String)
  deriving DecidableEq

/-- The binder of what stands inside a node, where `outer` is the binder around it. -/
def Binder.inside (outer : Option Binder) : Node → Option Binder
  | .declarator _ (.ident _ name) _ _ => some (.variable name)
  | .keyValue _ key _ =>
    match key.keyName? with
    | some name => some (.property name)
    | none => outer
  | .functionDef _ (.ident _ name) _ => some (.function name)
  | _ => outer

def boundNodes (outer : Option Binder) (n : Node) : List (Option Binder × Node) :=
  (outer, n) :: n.children.attach.flatMap fun ⟨c, _⟩ => boundNodes (Binder.inside outer n) c
termination_by sizeOf n
decreasing_by exact Node.sizeOf_lt_of_mem_children ‹_›

def boundCalls (m : Module) : List (Option Binder × Call) :=
  (m.nodes.flatMap (boundNodes none)).filterMap fun (b, n) => n.asCall?.map (b, ·)

def mountTarget? (m : Matcher) (e : Node) : Option MountTarget :=
  match e.unwrap with
  | .ident _ name => some (.ref name)
  | .member _ _ property => property.plainProperty?.map .ref
  | .call span callee args types =>
    (routerOf? m ⟨span, callee, args, types⟩).map fun (router, _) => .inline router.span
  | _ => none

def procedureValue? (m : Matcher) (e : Node) : Option ProcedureKind :=
  match e.unwrap with
  | .call span callee args types =>
    let c : Call := ⟨span, callee, args, types⟩
    if (routerOf? m c).isSome then none else kindOf? c
  | _ => none

inductive Part where
  | procedure (p : Procedure)
  | mount (m : Mount)

def readProperty (m : Matcher) (lineOf : Span → Nat) : Node → Option (Part × Option Span)
  | .keyValue _ key value => do
    let name ← key.keyName?
    match procedureValue? m value with
    | some kind => return (.procedure ⟨name, kind, lineOf value.span⟩, some value.span)
    | none => return (.mount ⟨name, ← mountTarget? m value⟩, some value.span)
  | .shorthand _ name => some (.mount ⟨name, .ref name⟩, none)
  | _ => none

def argumentProperties (c : Call) : List Node :=
  match c.firstArg?.map Node.unwrap with
  | some (.object _ properties) => properties
  | _ => []

/-- A procedure that a call names in its first argument, if its chain begins with a builder. -/
def namedProcedure? (m : Matcher) (c : Call) : Option (String × ProcedureKind × Span) := do
  let (method, span) ← methodName? c
  let kind ← ProcedureKind.ofName? method
  let name ← firstText? c
  let base ← chainBase? c
  if m.isBuilder base then some (name, kind, span) else none

/-- The procedure that a node names, and the parts of the node in which more of them are looked
for. Routers are sites of their own and are not entered, nor are values that have been read, nor
the arguments of a procedure that was found. -/
def namedHere (m : Matcher) (read : List Span) (n : Node) :
    Option (String × ProcedureKind × Span) × List Node :=
  match n with
  | .call span callee args types =>
    let c : Call := ⟨span, callee, args, types⟩
    if (chain c).any m.isRouterCall then (none, [])
    else
      match namedProcedure? m c with
      | some found => (some found, [callee])
      | none => (none, n.children)
  | .keyValue _ _ value => (none, if read.contains value.span then [] else n.children)
  | _ => (none, n.children)

theorem namedHere_subset (m : Matcher) (read : List Span) (n : Node) :
    (namedHere m read n).2 ⊆ n.children := by
  unfold namedHere
  split
  · dsimp only
    split
    · simp
    · split <;> simp [Node.children]
  · split <;> simp
  · simp

def namedProcedures (m : Matcher) (read : List Span) (n : Node) :
    List (String × ProcedureKind × Span) :=
  (namedHere m read n).1.toList ++
    (namedHere m read n).2.attach.flatMap fun ⟨c, _⟩ => namedProcedures m read c
termination_by sizeOf n
decreasing_by exact Node.sizeOf_lt_of_mem_children (namedHere_subset m read n ‹_›)

def readProperties (m : Matcher) (lineOf : Span → Nat) (router : Call) :
    List (Part × Option Span) :=
  (argumentProperties router).filterMap (readProperty m lineOf)

def namedInside (m : Matcher) (lineOf : Span → Nat) (router : Call) :
    List (String × ProcedureKind × Span) :=
  let read := (readProperties m lineOf router).filterMap (·.2)
  (router.args.map Node.withoutSpread).flatMap (namedProcedures m read)

def mergeArguments? (c : Call) : Option (String × Node) :=
  match c.args.map Node.withoutSpread with
  | [key, target] => some (key.constantText?.getD "", target)
  | [target] => some ("", target)
  | _ => none

def readOuter (m : Matcher) (lineOf : Span → Nat) (c : Call) : Option Part := do
  let (method, span) ← methodName? c
  match ProcedureKind.ofName? method with
  | some kind => return .procedure ⟨← firstText? c, kind, lineOf span⟩
  | none =>
    if method = "merge" then
      let (key, target) ← mergeArguments? c
      let trimmed := (key.toList.reverse.dropWhile (· = '.')).reverse
      return .mount ⟨String.ofList trimmed, ← mountTarget? m target⟩
    else none

def Part.procedure? : Part → Option Procedure
  | .procedure p => some p
  | .mount _ => none

def Part.mount? : Part → Option Mount
  | .mount m => some m
  | .procedure _ => none

def firstOfEachName : List String → List Procedure → List Procedure
  | _, [] => []
  | seen, p :: rest =>
    if seen.contains p.name then firstOfEachName seen rest
    else p :: firstOfEachName (p.name :: seen) rest

def siteName (line : Nat) : Option Binder → String × Option String
  | some (.variable name) => (name, some name)
  | some (.function name) => (name, some name)
  | some (.property name) => (name, none)
  | none => (s!"router@{line}", none)

def makeSite (m : Matcher) (f : SourceFile) (binder : Option Binder) (router : Call)
    (outer : List Call) : RouterSite :=
  let properties := readProperties m f.lineOf router
  let named := namedInside m f.lineOf router
  let added := outer.filterMap (readOuter m f.lineOf)
  let (name, binding) := siteName (f.lineOf router.span) binder
  { file := f.id
    name, binding
    callee := router.name?
    key := router.span
    procedures := firstOfEachName []
      (properties.filterMap (·.1.procedure?) ++
        (named.map fun (name, kind, span) => ⟨name, kind, f.lineOf span⟩) ++
        added.filterMap Part.procedure?)
    mounts := properties.filterMap (·.1.mount?) ++ added.filterMap Part.mount? }

def claimSites (m : Matcher) (f : SourceFile) :
    List Span → List (Option Binder × Call) → List RouterSite
  | _, [] => []
  | claimed, (binder, c) :: rest =>
    match routerOf? m c with
    | some (router, outer) =>
      if claimed.contains router.span then claimSites m f claimed rest
      else makeSite m f binder router outer :: claimSites m f (router.span :: claimed) rest
    | none => claimSites m f claimed rest

/-- All sites of a file. The outermost call of a chain is visited first, so a site has all calls
on top of its router. -/
def sitesOf (m : Matcher) (f : SourceFile) : List RouterSite :=
  claimSites m f [] (boundCalls f.module)

structure ProcedureVar where
  file : Nat
  name : String
  kind : ProcedureKind
  line : Nat

def procedureVarsOf (m : Matcher) (f : SourceFile) : List ProcedureVar :=
  f.module.preorder.filterMap fun
    | .declarator span (.ident _ name) _ (some value) =>
      (procedureValue? m value).map fun kind => ⟨f.id, name, kind, f.lineOf span⟩
    | _ => none

end RouteAtlas.Rpc
