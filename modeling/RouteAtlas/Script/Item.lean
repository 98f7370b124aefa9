import RouteAtlas.Script.Node

set_option autoImplicit false

namespace RouteAtlas.Script

inductive ImportKind where
  | named
  | default
  | namespace
  deriving DecidableEq, Repr

structure ImportSpecifier where
  kind : ImportKind
  typeOnly : Bool
  localName : Node
  /-- The name in the other module, where it is written apart. -/
  imported : Option Node

inductive ExportSpecifier where
  /-- `orig`, or `orig as exported`, with or without `type` before it. -/
  | named (span : Span) (typeOnly : Bool) (orig : Node) (exported : Option Node)
  | namespace (name : Node)

inductive DefaultDecl where
  | function (name : Option String) (node : Node)
  | classLike (name : Option String) (node : Node)
  | interface (node : Node)

inductive Item where
  | importDecl (span : Span) (typeOnly : Bool) (source : String)
      (specifiers : List ImportSpecifier) (attributes : List Node)
  | exportDecl (span : Span) (decl : Node)
  | exportNamed (span : Span) (typeOnly : Bool) (specifiers : List ExportSpecifier)
      (source : Option String) (attributes : List Node)
  | exportAll (span : Span) (typeOnly : Bool) (source : String) (attributes : List Node)
  | exportDefaultDecl (span : Span) (decl : DefaultDecl)
  | exportDefaultExpr (span : Span) (expr : Node)
  | exportAssign (span : Span) (expr : Node)
  | statement (node : Node)
  | other (span : Span) (parts : List Node)

def ImportSpecifier.nodes (s : ImportSpecifier) : List Node := s.localName :: s.imported.toList

def ExportSpecifier.nodes : ExportSpecifier → List Node
  | .named _ _ orig exported => orig :: exported.toList
  | .namespace name => [name]

def DefaultDecl.node : DefaultDecl → Node
  | .function _ node => node
  | .classLike _ node => node
  | .interface node => node

namespace Item

def nodes : Item → List Node
  | .importDecl _ _ _ specifiers attributes =>
    specifiers.flatMap ImportSpecifier.nodes ++ attributes
  | .exportDecl _ decl => [decl]
  | .exportNamed _ _ specifiers _ attributes =>
    specifiers.flatMap ExportSpecifier.nodes ++ attributes
  | .exportAll _ _ _ attributes => attributes
  | .exportDefaultDecl _ decl => [decl.node]
  | .exportDefaultExpr _ expr => [expr]
  | .exportAssign _ expr => [expr]
  | .statement node => [node]
  | .other _ parts => parts

def span : Item → Span
  | .importDecl s _ _ _ _ => s
  | .exportDecl s _ => s
  | .exportNamed s _ _ _ _ => s
  | .exportAll s _ _ _ => s
  | .exportDefaultDecl s _ => s
  | .exportDefaultExpr s _ => s
  | .exportAssign s _ => s
  | .statement node => node.span
  | .other s _ => s

def toNode (i : Item) : Node :=
  match i with
  | .statement node => node
  | i => .other i.span i.nodes

end Item

/-- A parsed source file: its items and the offsets at which its lines begin. -/
structure Module where
  items : List Item
  lineStarts : List Nat

namespace Module

def nodes (m : Module) : List Node := m.items.flatMap Item.nodes

def preorder (m : Module) : List Node := m.nodes.flatMap Node.preorder

def lineOf (m : Module) (s : Span) : Nat := (m.lineStarts.takeWhile (· ≤ s.lo)).length

end Module

end RouteAtlas.Script
