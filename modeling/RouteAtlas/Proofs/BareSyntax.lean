import RouteAtlas.Reference.Walk

set_option autoImplicit false

/-!
# Syntax without parentheses and assertions

Parentheses and type assertions do not change what an expression stands for. Here they are taken
out of trees, modules and projects at every depth, and all other nodes stay with their spans, by
which literals are known. What a walk reads off a tree without following anything is the same
afterwards: texts, keys, and the arguments of calls.
-/
namespace RouteAtlas.Script

namespace Node

/-- Whether a node stands only as a part of a literal, a call or a member and is no expression
itself. -/
def isPart : Node → Bool
  | .spread _ _ => true
  | .hole _ => true
  | .keyValue _ _ _ => true
  | .shorthand _ _ => true
  | .computed _ _ => true
  | _ => false

mutual
/-- A tree without the parentheses and type assertions around its expressions. What is wrapped is an
expression in every module; a wrapped node that is none stays wrapped. -/
def bare : Node → Node
  | .ident s name => .ident s name
  | .privateName s name => .privateName s name
  | .thisRef s => .thisRef s
  | .str s value => .str s value
  | .bool s value => .bool s value
  | .number s text => .number s text
  | .template s pieces parts => .template s pieces (bareAll parts)
  | .member s base property => .member s (bare base) (bareKey property)
  | .computed s inner => .computed s (bare inner)
  | .call s callee args types => .call s (bare callee) (bareAll args) (bareAll types)
  | .spread s inner => .spread s (bare inner)
  | .hole s => .hole s
  | .array s elements => .array s (bareAll elements)
  | .object s properties => .object s (bareAll properties)
  | .keyValue s key value => .keyValue s (bareKey key) (bare value)
  | .shorthand s name => .shorthand s name
  | .wrap s inner types =>
    if inner.unwrap.isPart then .wrap s (bare inner) (bareAll types) else bare inner
  | .comparison s left right => .comparison s (bare left) (bare right)
  | .switch s subject cases => .switch s (bare subject) (bareAll cases)
  | .switchCase s test body => .switchCase s (bareOption test) (bareAll body)
  | .declarator s target types value =>
    .declarator s (bare target) (bareAll types) (bareOption value)
  | .varDecls s declarators => .varDecls s (bareAll declarators)
  | .functionDef s name parts => .functionDef s (bare name) (bareAll parts)
  | .classDef s name decorators members heritage =>
    .classDef s (bareOption name) (bareAll decorators) (bareAll members) (bareAll heritage)
  | .method s key params decorators rest =>
    .method s (bareKey key) (bareAll params) (bareAll decorators) (bareAll rest)
  | .param s decorators target => .param s (bareAll decorators) (bare target)
  | .pattern s keys targets defaults =>
    .pattern s (bareAll keys) (bareAll targets) (bareAll defaults)
  | .statement s expr => .statement s (bare expr)
  | .other s parts => .other s (bareAll parts)

def bareKey : Node → Node
  | .computed s inner => .computed s (bare inner)
  | key => key

def bareAll : List Node → List Node
  | [] => []
  | n :: rest => bare n :: bareAll rest

def bareOption : Option Node → Option Node
  | none => none
  | some n => some (bare n)
end

@[simp] theorem bareAll_eq_map (ns : List Node) : bareAll ns = ns.map bare := by
  induction ns with
  | nil => rfl
  | cons n rest ih => rw [bareAll, ih, List.map_cons]

theorem unwrap_ne_wrap (n : Node) (s : Span) (inner : Node) (types : List Node) :
    n.unwrap ≠ .wrap s inner types := by
  induction n using unwrap_induction with
  | wrap s inner types ih =>
    rw [unwrap]
    exact ih
  | plain n hne hn =>
    rw [hn]
    exact hne s inner types

theorem unwrap_unwrap (n : Node) : n.unwrap.unwrap = n.unwrap := by
  cases h : n.unwrap with
  | wrap s inner types => exact absurd h (n.unwrap_ne_wrap s inner types)
  | _ => rfl

theorem unwrap_bare (n : Node) : n.bare.unwrap = n.unwrap.bare := by
  induction n using unwrap_induction with
  | wrap s inner types ih =>
    rw [bare, unwrap]
    split
    · rw [unwrap]
      exact ih
    · exact ih
  | plain n hne _ =>
    cases n with
    | wrap s inner types => exact absurd rfl (hne s inner types)
    | _ => rfl

-- `(a as T).b!` becomes `a.b`
example :
    bare (.wrap ⟨0, 12⟩ (.member ⟨0, 11⟩ (.wrap ⟨0, 9⟩ (.wrap ⟨1, 8⟩ (.ident ⟨1, 2⟩ "a")
        [.ident ⟨6, 7⟩ "T"]) []) (.ident ⟨10, 11⟩ "b")) []) =
      .member ⟨0, 11⟩ (.ident ⟨1, 2⟩ "a") (.ident ⟨10, 11⟩ "b") := rfl

theorem isPart_bare (n : Node) : n.bare.isPart = n.isPart := by
  induction n using unwrap_induction with
  | wrap s inner types ih =>
    rw [bare]
    split
    · rfl
    · rename_i hpart
      rw [ih]
      -- what is wrapped is wrapped again, or it is what is unwrapped in the end
      cases inner with
      | wrap s inner types => rfl
      | _ => exact Bool.eq_false_iff.2 hpart
  | plain n hne _ =>
    cases n with
    | wrap s inner types => exact absurd rfl (hne s inner types)
    | _ => rfl

theorem bare_ne_spread {n : Node} (h : ∀ s e, n = .spread s e → False) (s : Span) (e : Node) :
    n.bare = .spread s e → False := by
  intro heq
  have hpart := n.isPart_bare
  rw [heq] at hpart
  cases n with
  | spread s' e' => exact h s' e' rfl
  | hole | keyValue | shorthand | computed => cases heq
  | _ => cases hpart

theorem bare_ne_hole {n : Node} (h : ∀ s, n = .hole s → False) (s : Span) :
    n.bare = .hole s → False := by
  intro heq
  have hpart := n.isPart_bare
  rw [heq] at hpart
  cases n with
  | hole s' => exact h s' rfl
  | spread | keyValue | shorthand | computed => cases heq
  | _ => cases hpart

theorem constantText?_bare (n : Node) : n.bare.constantText? = n.constantText? := by
  rw [constantText?, constantText?, unwrap_bare]
  cases h : n.unwrap with
  | template s pieces parts =>
    rcases pieces with _ | ⟨text, _ | _⟩ <;> cases parts <;> rfl
  | wrap s inner types => exact absurd h (n.unwrap_ne_wrap s inner types)
  | _ => rfl

theorem keyName?_bareKey (n : Node) : n.bareKey.keyName? = n.keyName? := by
  cases n <;> rfl

end Node

def DefaultDecl.bare : DefaultDecl → DefaultDecl
  | .function name node => .function name node.bare
  | .classLike name node => .classLike name node.bare
  | .interface node => .interface node.bare

def Item.bare : Item → Item
  | .importDecl s typeOnly source specifiers attributes =>
    .importDecl s typeOnly source specifiers (attributes.map Node.bare)
  | .exportDecl s decl => .exportDecl s decl.bare
  | .exportNamed s typeOnly specifiers source attributes =>
    .exportNamed s typeOnly specifiers source (attributes.map Node.bare)
  | .exportAll s typeOnly source attributes =>
    .exportAll s typeOnly source (attributes.map Node.bare)
  | .exportDefaultDecl s decl => .exportDefaultDecl s decl.bare
  | .exportDefaultExpr s expr => .exportDefaultExpr s expr.bare
  | .exportAssign s expr => .exportAssign s expr.bare
  | .statement node => .statement node.bare
  | .other s parts => .other s (parts.map Node.bare)

def Module.bare (m : Module) : Module := { m with items := m.items.map Item.bare }

end RouteAtlas.Script

namespace RouteAtlas

open Script

def DeclKind.bare : DeclKind → DeclKind
  | .value expr => .value expr.bare
  | .imported specifier name => .imported specifier name
  | .noValue => .noValue

def Declaration.bare (d : Declaration) : Declaration := { d with kind := d.kind.bare }

def SourceFile.bare (f : SourceFile) : SourceFile := { f with module := f.module.bare }

def Project.bare (p : Project) : Project :=
  { p with files := p.files.map SourceFile.bare, decls := p.decls.map Declaration.bare }

namespace Workspace

def bare (ws : Workspace) : Workspace := { ws with project := ws.project.bare }

variable (ws : Workspace)

@[simp] theorem relPath_bare (file : Nat) : ws.bare.relPath file = ws.relPath file := by
  simp [relPath, bare, Project.bare, Function.comp_def, SourceFile.bare]

@[simp] theorem binding?_bare (file : Nat) (name : String) :
    ws.bare.binding? file name = ws.binding? file name := by
  simp [binding?, bare, Project.bare, Option.bind_map, Function.comp_def, SourceFile.bare,
    SourceFile.binding?]

@[simp] theorem export?_bare (file : Nat) (name : String) :
    ws.bare.export? file name = ws.export? file name := by
  simp [export?, bare, Project.bare, Option.bind_map, Function.comp_def, SourceFile.bare,
    SourceFile.export?]

@[simp] theorem resolveImport?_bare (file : Nat) (specifier : String) :
    ws.bare.resolveImport? file specifier = ws.resolveImport? file specifier := by
  simp [resolveImport?, Project.resolveImport?, bare, Project.bare, Option.bind_map,
    Function.comp_def, SourceFile.bare, SourceFile.path, Project.fileAt?]

@[simp] theorem starTargets_bare (file : Nat) : ws.bare.starTargets file = ws.starTargets file := by
  have hstars : (ws.bare.project.files[file]?).map (·.index.stars) =
      (ws.project.files[file]?).map (·.index.stars) := by
    simp [bare, Project.bare, Function.comp_def, SourceFile.bare]
  simp only [starTargets, hstars, funext (ws.resolveImport?_bare file)]

@[simp] theorem decl?_bare (id : Nat) :
    ws.bare.project.decls[id]? = (ws.project.decls[id]?).map Declaration.bare := by
  simp [bare, Project.bare]

end Workspace

namespace Reference

def ObjectRef.bare (obj : ObjectRef) : ObjectRef :=
  { obj with properties := obj.properties.map Node.bare }

def ArrayRef.bare (arr : ArrayRef) : ArrayRef := { arr with elements := arr.elements.map Node.bare }

@[simp] theorem ObjectRef.literal_bare (obj : ObjectRef) : obj.bare.literal = obj.literal := rfl

@[simp] theorem ArrayRef.literal_bare (arr : ArrayRef) : arr.bare.literal = arr.literal := rfl

def Value.bare : Value → Value
  | .object obj => .object obj.bare
  | .array arr => .array arr.bare
  | .namespace file => .namespace file
  | .text s => .text s
  | .flag b => .flag b

def PropertyValue.bare : PropertyValue → PropertyValue
  | .expr e => .expr e.bare
  | .shorthand name => .shorthand name

def Property.bare (p : Property) : Property := { p with value := p.value.bare }

theorem memberKey?_bare (property : Node) : memberKey? property.bareKey = memberKey? property := by
  cases property with
  | computed s inner => exact inner.constantText?_bare
  | _ => rfl

theorem objectArgument?_cons (o : Origin) {arg : Node} (rest : List Node)
    (h : ∀ s e, arg = .spread s e → False) :
    objectArgument? o (arg :: rest) =
      match arg.unwrap with
      | .object s properties => some ⟨o, s, properties⟩
      | _ => objectArgument? o rest := by
  cases arg with
  | spread s e => exact absurd rfl (h s e)
  | _ => rfl

theorem objectArgument?_bare (o : Origin) (args : List Node) :
    objectArgument? o (args.map Node.bare) = (objectArgument? o args).map ObjectRef.bare := by
  induction args with
  | nil => rfl
  | cons arg rest ih =>
    have hplain (h : ∀ s e, arg = .spread s e → False) :
        objectArgument? o (arg.bare :: rest.map Node.bare) =
          (objectArgument? o (arg :: rest)).map ObjectRef.bare := by
      rw [objectArgument?_cons o _ h, objectArgument?_cons o _ (Node.bare_ne_spread h),
        arg.unwrap_bare]
      cases harg : arg.unwrap with
      | object s properties => simp [Node.bare, ObjectRef.bare]
      | wrap s inner types => exact absurd harg (arg.unwrap_ne_wrap s inner types)
      | _ => exact ih
    cases arg with
    | spread s e => exact ih
    | _ => exact hplain nofun

theorem followedArgument?_cons {arg : Node} (rest : List Node)
    (h : ∀ s e, arg = .spread s e → False) :
    followedArgument? (arg :: rest) =
      match arg.unwrap with
      | .ident _ _ => some arg
      | .member _ _ _ => some arg
      | _ => none := by
  cases arg with
  | spread s e => exact absurd rfl (h s e)
  | _ => rfl

theorem followedArgument?_bare (args : List Node) :
    followedArgument? (args.map Node.bare) = (followedArgument? args).map Node.bare := by
  cases args with
  | nil => rfl
  | cons arg rest =>
    have hplain (h : ∀ s e, arg = .spread s e → False) :
        followedArgument? (arg.bare :: rest.map Node.bare) =
          (followedArgument? (arg :: rest)).map Node.bare := by
      rw [followedArgument?_cons _ h, followedArgument?_cons _ (Node.bare_ne_spread h),
        arg.unwrap_bare]
      cases harg : arg.unwrap with
      | wrap s inner types => exact absurd harg (arg.unwrap_ne_wrap s inner types)
      | _ => rfl
    cases arg with
    | spread s e => rfl
    | _ => exact hplain nofun

end Reference

end RouteAtlas
