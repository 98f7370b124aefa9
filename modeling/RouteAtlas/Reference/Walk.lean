import RouteAtlas.Reference.Basic

set_option autoImplicit false

/-!
# Following references

What an expression stands for is found through the names of its file, imports, exports of other
files, members of objects and spreads. Anything that cannot be followed stands for nothing.

A walk asks questions, and most answers depend on the answers to further questions. Each
function below says what one kind of question comes to when `ask` answers the further ones. A
walk ends because every further question either goes deeper, which is bounded, or follows a
declaration that is not being followed yet.
-/
namespace RouteAtlas.Reference

open Script Tracing

def memberKey? : Node → Option String
  | .ident _ name => some name
  | .computed _ inner => inner.constantText?
  | _ => none

def objectArgument? (o : Origin) : List Node → Option ObjectRef
  | [] => none
  | .spread _ _ :: rest => objectArgument? o rest
  | arg :: rest =>
    match arg.unwrap with
    | .object span properties => some ⟨o, span, properties⟩
    | _ => objectArgument? o rest

def followedArgument? : List Node → Option Node
  | arg :: _ =>
    match arg with
    | .spread _ _ => none
    | _ =>
      match arg.unwrap with
      | .ident _ _ => some arg
      | .member _ _ _ => some arg
      | _ => none
  | [] => none

/-- What can be asked on a walk. -/
inductive Question where
  /-- What an expression stands for. -/
  | value (o : Origin) (e : Node)
  /-- The same for an expression without parentheses and assertions. -/
  | plainValue (o : Origin) (e : Node)
  /-- What a call with these arguments stands for. -/
  | callValue (o : Origin) (args : List Node)
  | nameValue (file : Nat) (name : String)
  | declValue (id : Nat)
  | importValue (file : Nat) (specifier : String) (name : ImportedName)
  | exportValue (file : Nat) (name : String)
  | lookup (obj : ObjectRef) (key : String)
  | propertyValue (p : Property)
  | elements (arr : ArrayRef)

abbrev Question.Answer : Question → Type
  | .value _ _ => Option Value
  | .plainValue _ _ => Option Value
  | .callValue _ _ => Option Value
  | .nameValue _ _ => Option Value
  | .declValue _ => Option Value
  | .importValue _ _ _ => Option Value
  | .exportValue _ _ => Option Value
  | .lookup _ _ => Option Property
  | .propertyValue _ => Option Value
  | .elements _ => List ObjectRef

abbrev Tracer := (q : Question) → Tracing q.Answer

def value (ask : Tracer) (o : Origin) (e : Node) : Tracing (Option Value) := do
  if maxDepth ≤ (← get).depth then
    debug "symbol resolution depth limit reached"
    return none
  else deeper (ask (.plainValue o e.unwrap))

def memberValue (ask : Tracer) (key : String) : Option Value → Tracing (Option Value)
  | some (.object obj) => do
    match ← ask (.lookup obj key) with
    | some p => ask (.propertyValue p)
    | none => return none
  | some (.namespace file) => ask (.exportValue file key)
  | _ => pure none

def plainValue (ask : Tracer) (o : Origin) : Node → Tracing (Option Value)
  | .object span properties => pure (some (.object ⟨o, span, properties⟩))
  | .array span elements => pure (some (.array ⟨o, span, elements⟩))
  | .str _ s => pure (some (.text s))
  | .bool _ b => pure (some (.flag b))
  | .template _ [s] [] => pure (some (.text s))
  | .call _ _ args _ => ask (.callValue o args)
  | .ident _ name => ask (.nameValue o.file name)
  | .member _ base property =>
    match memberKey? property with
    | none => pure none
    | some key => do memberValue ask key (← ask (.value o base))
  | _ => pure none

/-- A call stands for its first argument that is written as an object, or for the object that a
first argument which is a name or a member stands for. -/
def callValue (ask : Tracer) (o : Origin) (args : List Node) : Tracing (Option Value) :=
  match objectArgument? o args with
  | some obj => pure (some (.object obj))
  | none =>
    match followedArgument? args with
    | none => pure none
    | some arg => do
      match ← ask (.value o arg) with
      | some (.object obj) => return some (.object obj)
      | _ => return none

def nameValue (ws : Workspace) (ask : Tracer) (file : Nat) (name : String) :
    Tracing (Option Value) :=
  match ws.binding? file name with
  | some id => ask (.declValue id)
  | none => do
    debug s!"{ws.relPath file}: no module-scope binding for `{name}`"
    return none

/-- What a declaration stands for. One that is being followed already is not followed again. -/
def declValue (ws : Workspace) (ask : Tracer) (id : Nat) : Tracing (Option Value) :=
  match ws.project.decls[id]? with
  | none => pure none
  | some d => do
    if (← get).decls.contains id then
      debug s!"circular reference through `{d.name}`"
      return none
    else
      following id <|
        match d.kind with
        | .value e => ask (.value ⟨d.file, .declaration⟩ e)
        | .imported specifier name => ask (.importValue d.file specifier name)
        | .noValue => pure none

def importValue (ws : Workspace) (ask : Tracer) (file : Nat) (specifier : String)
    (name : ImportedName) : Tracing (Option Value) :=
  match ws.resolveImport? file specifier with
  | none => do
    debug s!"{ws.relPath file}: cannot resolve import `{specifier}`"
    return none
  | some target =>
    match name with
    | .namespace => pure (some (.namespace target))
    | .default => ask (.exportValue target "default")
    | .named name => ask (.exportValue target name)

/-- What a file exports under a name: its own export, or the first one found in the files of
which it exports all names. A default export is never taken from those. -/
def exportValue (ws : Workspace) (ask : Tracer) (file : Nat) (name : String) :
    Tracing (Option Value) :=
  match ws.export? file name with
  | some id => ask (.declValue id)
  | none => do
    let w ← get
    if name = "default" || maxDepth ≤ w.depth || w.exports.contains (file, name) then
      return none
    else
      searching (file, name) <| deeper <|
        firstFound (fun target => ask (.exportValue target name)) (ws.starTargets file)

/-- The property that one entry of an object gives for a key. A spread counts as the properties
of the object it stands for. -/
def entryProperty (ask : Tracer) (o : Origin) (key : String) : Node → Tracing (Option Property)
  | .keyValue _ k v => pure (if k.keyName? = some key then some ⟨o, .expr v⟩ else none)
  | .shorthand _ name => pure (if name = key then some ⟨o, .shorthand name⟩ else none)
  | .spread _ inner => do
    match ← ask (.value o inner) with
    | some (.object base) => ask (.lookup base key)
    | _ => return none
  | _ => pure none

def lookup (ask : Tracer) (obj : ObjectRef) (key : String) : Tracing (Option Property) := do
  let w ← get
  if maxDepth ≤ w.depth || w.containers.contains obj.literal then return none
  else
    opening obj.literal <| deeper <|
      firstFound (entryProperty ask obj.origin key) obj.properties.reverse

def propertyValue (ask : Tracer) (p : Property) : Tracing (Option Value) :=
  match p.value with
  | .expr e => ask (.value p.origin e)
  | .shorthand name => ask (.nameValue p.origin.file name)

def listed (obj : ObjectRef) : Tracing (List ObjectRef) := do
  if (← get).seen.contains obj.literal then return []
  else
    modify fun w => { w with seen := obj.literal :: w.seen }
    return [obj]

def skipped (ws : Workspace) (o : Origin) : Tracing (List ObjectRef) := do
  debug s!"{ws.relPath o.file}: skipping unresolvable array element"
  return []

def elementObjects (ws : Workspace) (ask : Tracer) (o : Origin) : Node → Tracing (List ObjectRef)
  | .hole _ => pure []
  | .spread _ inner => do
    match ← ask (.value o inner) with
    | some (.array base) => ask (.elements base)
    | _ => skipped ws o
  | e => do
    match ← ask (.value o e) with
    | some (.object obj) => listed obj
    | _ => skipped ws o

/-- The objects that the elements of an array stand for. Each literal is listed only once. -/
def elements (ws : Workspace) (ask : Tracer) (arr : ArrayRef) : Tracing (List ObjectRef) := do
  let w ← get
  if maxDepth ≤ w.depth || w.containers.contains arr.literal then
    debug "skipping self-referential array spread"
    return []
  else
    opening arr.literal <| deeper <| gather (elementObjects ws ask arr.origin) arr.elements

/-- Answers a question when `ask` answers the further ones. -/
def follow (ws : Workspace) (ask : Tracer) : Tracer
  | .value o e => value ask o e
  | .plainValue o e => plainValue ask o e
  | .callValue o args => callValue ask o args
  | .nameValue file name => nameValue ws ask file name
  | .declValue id => declValue ws ask id
  | .importValue file specifier name => importValue ws ask file specifier name
  | .exportValue file name => exportValue ws ask file name
  | .lookup obj key => lookup ask obj key
  | .propertyValue p => propertyValue ask p
  | .elements arr => elements ws ask arr

def silent : Tracer
  | .value _ _ => pure none
  | .plainValue _ _ => pure none
  | .callValue _ _ => pure none
  | .nameValue _ _ => pure none
  | .declValue _ => pure none
  | .importValue _ _ _ => pure none
  | .exportValue _ _ => pure none
  | .lookup _ _ => pure none
  | .propertyValue _ => pure none
  | .elements _ => pure []

/-- Follows questions up to the given nesting and leaves what is nested deeper to `base`. -/
def nested (ws : Workspace) (base : Tracer) : Nat → Tracer
  | 0 => base
  | n + 1 => follow ws (nested ws base n)

/-- A bound on the nesting of the questions of any walk: three for each declaration and four for
each level of depth. -/
def nestingBound (ws : Workspace) : Nat := 3 * ws.project.decls.length + 4 * maxDepth + 4

/-- Answers all questions. No walk is nested so deep that one is left to `silent`. -/
def trace (ws : Workspace) : Tracer := nested ws silent (nestingBound ws)

end RouteAtlas.Reference
