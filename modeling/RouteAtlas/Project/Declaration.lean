import RouteAtlas.Script.Name

set_option autoImplicit false

/-!
# Declarations of a module

The declarations at the top level of a module are entered one after the other in a list that all
modules of a project share. A module keeps which of them its names stand for, inside it and for
those who import it.
-/
namespace RouteAtlas

open Script

inductive ImportedName where
  | named (name : String)
  | default
  | namespace
  deriving DecidableEq, Repr

inductive DeclKind where
  /-- A variable with its initial value, or a default export of an expression. -/
  | value (expr : Node)
  | imported (specifier : String) (name : ImportedName)
  /-- A function, a class or a variable without initial value. -/
  | noValue

structure Declaration where
  file : Nat
  name : String
  span : Span
  kind : DeclKind

/-- A map from names to positions in the list of declarations; the last entry is in front. -/
abbrev NameMap := List (String × Nat)

structure ModuleIndex where
  bindings : NameMap := []
  exports : NameMap := []
  stars : List String := []

inductive IndexEffect where
  /-- Declares, binds inside the module and exports. -/
  | declare (name : String) (span : Span) (kind : DeclKind) (bound exported : List String)
  | star (specifier : String)
  /-- Exports what a name of the module stands for in the end. -/
  | localExport (name exported : String)

namespace ModuleIndex

def specifierName (n : Node) : String := n.keyName?.getD ""

def importedName (name : String) : ImportedName :=
  if name = "default" then .default else .named name

def declared : Node → List (String × Span × DeclKind)
  | .varDecls _ declarators =>
    declarators.filterMap fun
      | .declarator span (.ident _ name) _ value =>
        some (name, span, (value.map DeclKind.value).getD .noValue)
      | _ => none
  | .functionDef span (.ident _ name) _ => [(name, span, .noValue)]
  | .classDef span (some (.ident _ name)) _ _ _ => [(name, span, .noValue)]
  | _ => []

def importEffect? (source : String) (s : ImportSpecifier) : Option IndexEffect :=
  if s.typeOnly then none
  else
    let name := specifierName s.localName
    let imported := match s.kind with
      | .named => importedName ((s.imported.map specifierName).getD name)
      | .default => .default
      | .namespace => .namespace
    some (.declare name s.localName.span (.imported source imported) [name] [])

def exportEffect? (span : Span) (source : Option String) : ExportSpecifier → Option IndexEffect
  | .named _ _ orig exported =>
    let name := specifierName orig
    let outer := (exported.map specifierName).getD name
    match source with
    | some src => some (.declare outer span (.imported src (importedName name)) [] [outer])
    | none => some (.localExport name outer)
  | .namespace name =>
    source.map fun src =>
      .declare (specifierName name) span (.imported src .namespace) [] [specifierName name]

def effects : Item → List IndexEffect
  | .statement node =>
    (declared node).map fun (name, span, kind) => .declare name span kind [name] []
  | .exportDecl _ node =>
    (declared node).map fun (name, span, kind) => .declare name span kind [name] [name]
  | .importDecl _ false source specifiers _ => specifiers.filterMap (importEffect? source)
  | .exportNamed span false specifiers source _ => specifiers.filterMap (exportEffect? span source)
  | .exportAll _ false source _ => [.star source]
  | .exportDefaultExpr span expr => [.declare "default" span (.value expr) [] ["default"]]
  | .exportAssign span expr => [.declare "default" span (.value expr) [] ["default"]]
  | .exportDefaultDecl span (.function name _) =>
    [.declare "default" span .noValue name.toList ["default"]]
  | .exportDefaultDecl span (.classLike name _) =>
    [.declare "default" span .noValue name.toList ["default"]]
  | _ => []

def bind (names : List String) (id : Nat) (m : NameMap) : NameMap :=
  names.foldl (fun m name => (name, id) :: m) m

/-- Enters an effect, except that an export of a local name waits. -/
def enter (file : Nat) : List Declaration × ModuleIndex → IndexEffect →
    List Declaration × ModuleIndex
  | (decls, index), .declare name span kind bound exported =>
    (decls ++ [⟨file, name, span, kind⟩],
      { index with
        bindings := bind bound decls.length index.bindings
        exports := bind exported decls.length index.exports })
  | (decls, index), .star specifier => (decls, { index with stars := index.stars ++ [specifier] })
  | (decls, index), .localExport _ _ => (decls, index)

def enterLocal (index : ModuleIndex) : IndexEffect → ModuleIndex
  | .localExport name exported =>
    match index.bindings.lookup name with
    | some id => { index with exports := (exported, id) :: index.exports }
    | none => index
  | _ => index

/-- Enters the declarations of a module after those of earlier modules. The exports of local
names come last, so they may stand before what they name. -/
def ofItems (file : Nat) (decls : List Declaration) (items : List Item) :
    List Declaration × ModuleIndex :=
  let all := items.flatMap effects
  let (decls, index) := all.foldl (enter file) (decls, {})
  (decls, all.foldl enterLocal index)

end ModuleIndex

end RouteAtlas
