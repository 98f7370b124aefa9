set_option autoImplicit false

/-!
# Syntax trees

The tree of a script module. Phrases that a survey looks at have a constructor of their own;
every other phrase is an `other` node that only holds its parts. The parts of a node stand in
the order in which a reader of the tree visits them, which `children` gives.
-/
namespace RouteAtlas.Script

/-- The part of a text that a phrase covers: from the offset `lo` up to, not including, `hi`. -/
structure Span where
  lo : Nat
  hi : Nat
  deriving DecidableEq, Repr, Inhabited

inductive Node where
  /-- A name, wherever it stands: a reference, a binding, a property, a type, a label. -/
  | ident (span : Span) (name : String)
  | privateName (span : Span) (name : String)
  | thisRef (span : Span)
  | str (span : Span) (value : String)
  | bool (span : Span) (value : Bool)
  /-- A number, known by the text it has as a property name. -/
  | number (span : Span) (text : String)
  /-- An untagged template: its text pieces and the expressions between them. -/
  | template (span : Span) (pieces : List String) (parts : List Node)
  | member (span : Span) (object property : Node)
  /-- A bracketed expression in the place of a property name. -/
  | computed (span : Span) (inner : Node)
  | call (span : Span) (callee : Node) (args types : List Node)
  | spread (span : Span) (inner : Node)
  | hole (span : Span)
  | array (span : Span) (elements : List Node)
  | object (span : Span) (properties : List Node)
  | keyValue (span : Span) (key value : Node)
  | shorthand (span : Span) (name : String)
  /-- Parentheses and type assertions, which do not change the value of what they enclose. -/
  | wrap (span : Span) (inner : Node) (types : List Node)
  | comparison (span : Span) (left right : Node)
  | switch (span : Span) (subject : Node) (cases : List Node)
  | switchCase (span : Span) (test : Option Node) (body : List Node)
  | declarator (span : Span) (target : Node) (types : List Node) (value : Option Node)
  | varDecls (span : Span) (declarators : List Node)
  /-- A declared function: its name, then parameters, body and types. -/
  | functionDef (span : Span) (name : Node) (parts : List Node)
  | classDef (span : Span) (name : Option Node) (decorators members heritage : List Node)
  /-- A method, getter or setter of a class or an object. -/
  | method (span : Span) (key : Node) (params decorators rest : List Node)
  | param (span : Span) (decorators : List Node) (target : Node)
  /-- A pattern that takes a value apart, or a part of one: the keys it looks at, the patterns for
  what it finds there, and the values that stand in for what is missing. -/
  | pattern (span : Span) (keys targets defaults : List Node)
  | statement (span : Span) (expr : Node)
  | other (span : Span) (parts : List Node)
  deriving Inhabited

namespace Node

def span : Node → Span
  | ident s _ => s
  | privateName s _ => s
  | thisRef s => s
  | str s _ => s
  | bool s _ => s
  | number s _ => s
  | template s _ _ => s
  | member s _ _ => s
  | computed s _ => s
  | call s _ _ _ => s
  | spread s _ => s
  | hole s => s
  | array s _ => s
  | object s _ => s
  | keyValue s _ _ => s
  | shorthand s _ => s
  | wrap s _ _ => s
  | comparison s _ _ => s
  | switch s _ _ => s
  | switchCase s _ _ => s
  | declarator s _ _ _ => s
  | varDecls s _ => s
  | functionDef s _ _ => s
  | classDef s _ _ _ _ => s
  | method s _ _ _ _ => s
  | param s _ _ => s
  | pattern s _ _ _ => s
  | statement s _ => s
  | other s _ => s

/-- The parts of a node in the order of a visit: source order, but a class is visited before
what it extends, and the parameters of a method before its decorators. -/
def children : Node → List Node
  | ident _ _ => []
  | privateName _ _ => []
  | thisRef _ => []
  | str _ _ => []
  | bool _ _ => []
  | number _ _ => []
  | template _ _ parts => parts
  | member _ obj property => [obj, property]
  | computed _ inner => [inner]
  | call _ callee args types => callee :: (args ++ types)
  | spread _ inner => [inner]
  | hole _ => []
  | array _ elements => elements
  | object _ properties => properties
  | keyValue _ key value => [key, value]
  | shorthand _ _ => []
  | wrap _ inner types => inner :: types
  | comparison _ left right => [left, right]
  | switch _ subject cases => subject :: cases
  | switchCase _ test body => test.toList ++ body
  | declarator _ target types value => target :: (types ++ value.toList)
  | varDecls _ declarators => declarators
  | functionDef _ name parts => name :: parts
  | classDef _ name decorators members heritage =>
    name.toList ++ (decorators ++ (members ++ heritage))
  | method _ key params decorators rest => key :: (params ++ (decorators ++ rest))
  | param _ decorators target => decorators ++ [target]
  | pattern _ keys targets defaults => keys ++ (targets ++ defaults)
  | statement _ expr => [expr]
  | other _ parts => parts

theorem sizeOf_lt_of_mem_children {n c : Node} (h : c ∈ n.children) : sizeOf c < sizeOf n := by
  cases n with
  | ident | privateName | shorthand | thisRef | str | bool | number | hole => simp [children] at h
  | template s p parts => have := List.sizeOf_lt_of_mem h; simp [children] at *; omega
  | array s es => have := List.sizeOf_lt_of_mem h; simp [children] at *; omega
  | object s ps => have := List.sizeOf_lt_of_mem h; simp [children] at *; omega
  | varDecls s ds => have := List.sizeOf_lt_of_mem h; simp [children] at *; omega
  | other s ps => have := List.sizeOf_lt_of_mem h; simp [children] at *; omega
  | member s a b =>
    simp only [children, List.mem_cons, List.not_mem_nil, or_false] at h
    rcases h with rfl | rfl <;> simp only [member.sizeOf_spec] <;> omega
  | keyValue s a b =>
    simp only [children, List.mem_cons, List.not_mem_nil, or_false] at h
    rcases h with rfl | rfl <;> simp only [keyValue.sizeOf_spec] <;> omega
  | comparison s a b =>
    simp only [children, List.mem_cons, List.not_mem_nil, or_false] at h
    rcases h with rfl | rfl <;> simp only [comparison.sizeOf_spec] <;> omega
  | computed s a => simp [children] at h; subst h; simp only [computed.sizeOf_spec]; omega
  | spread s a => simp [children] at h; subst h; simp only [spread.sizeOf_spec]; omega
  | statement s a => simp [children] at h; subst h; simp only [statement.sizeOf_spec]; omega
  | call s f as ts =>
    simp only [children, List.mem_cons, List.mem_append] at h
    rcases h with rfl | h | h
    · simp; omega
    · have := List.sizeOf_lt_of_mem h; simp; omega
    · have := List.sizeOf_lt_of_mem h; simp; omega
  | wrap s a ts =>
    simp only [children, List.mem_cons] at h
    rcases h with rfl | h
    · simp; omega
    · have := List.sizeOf_lt_of_mem h; simp; omega
  | switch s a cs =>
    simp only [children, List.mem_cons] at h
    rcases h with rfl | h
    · simp; omega
    · have := List.sizeOf_lt_of_mem h; simp; omega
  | functionDef s a ps =>
    simp only [children, List.mem_cons] at h
    rcases h with rfl | h
    · simp; omega
    · have := List.sizeOf_lt_of_mem h; simp; omega
  | switchCase s t b =>
    simp only [children, List.mem_append, Option.mem_toList] at h
    rcases h with h | h
    · cases h; simp; omega
    · have := List.sizeOf_lt_of_mem h; simp; omega
  | declarator s a ts v =>
    simp only [children, List.mem_cons, List.mem_append, Option.mem_toList] at h
    rcases h with rfl | h | h
    · simp; omega
    · have := List.sizeOf_lt_of_mem h; simp; omega
    · cases h; simp; omega
  | classDef s nm ds ms hs =>
    simp only [children, List.mem_append, Option.mem_toList] at h
    rcases h with h | h | h | h
    · cases h; simp; omega
    all_goals have := List.sizeOf_lt_of_mem h; simp; omega
  | method s k ps ds rs =>
    simp only [children, List.mem_cons, List.mem_append] at h
    rcases h with rfl | h | h | h
    · simp; omega
    all_goals have := List.sizeOf_lt_of_mem h; simp; omega
  | param s ds t =>
    simp only [children, List.mem_append, List.mem_singleton] at h
    rcases h with h | rfl
    · have := List.sizeOf_lt_of_mem h; simp only [param.sizeOf_spec]; omega
    · simp only [param.sizeOf_spec]; omega
  | pattern s ks ts ds =>
    simp only [children, List.mem_append] at h
    rcases h with h | h | h
    all_goals have := List.sizeOf_lt_of_mem h; simp; omega

def name? : Node → Option String
  | ident _ name => some name
  | privateName _ name => some name
  | shorthand _ name => some name
  | _ => none

/-- All nodes of a tree, each before its parts. -/
def preorder (n : Node) : List Node :=
  n :: n.children.attach.flatMap fun ⟨c, _⟩ => c.preorder
termination_by sizeOf n
decreasing_by exact sizeOf_lt_of_mem_children ‹_›

theorem preorder_eq (n : Node) : n.preorder = n :: n.children.flatMap preorder := by
  rw [preorder]
  simp [List.flatMap_subtype]

end Node

end RouteAtlas.Script
