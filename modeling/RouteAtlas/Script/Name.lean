import RouteAtlas.Script.Item

set_option autoImplicit false

namespace RouteAtlas.Script

namespace Node

def unwrap : Node → Node
  | .wrap _ inner _ => unwrap inner
  | n => n

/-- The key of a property, when it is known without running anything. -/
def keyName? : Node → Option String
  | .ident _ name => some name
  | .str _ value => some value
  | .number _ text => some text
  | _ => none

def constantText? (n : Node) : Option String :=
  match n.unwrap with
  | .str _ value => some value
  | .template _ [text] [] => some text
  | _ => none

/-- An argument or element without the dots of a spread. -/
def withoutSpread : Node → Node
  | .spread _ inner => inner
  | n => n

def plainProperty? : Node → Option String
  | .ident _ name => some name
  | _ => none

/-- To show something of all nodes, parentheses and type assertions may be taken off. -/
@[elab_as_elim]
theorem unwrap_induction {motive : Node → Prop}
    (wrap : ∀ span inner types, motive inner → motive (.wrap span inner types))
    (plain : ∀ n, (∀ span inner types, n ≠ .wrap span inner types) → n.unwrap = n → motive n)
    (n : Node) : motive n := by
  induction n using unwrap.induct with
  | case1 span inner types ih => exact wrap span inner types ih
  | case2 n h => exact plain n h (unwrap.eq_2 n h)

theorem sizeOf_unwrap_le (n : Node) : sizeOf n.unwrap ≤ sizeOf n := by
  induction n using unwrap_induction with
  | wrap s inner ts ih => simp only [unwrap]; simp; omega
  | plain n _ hn => exact Nat.le_of_eq (congrArg sizeOf hn)

/-- The dotted name of a chain of names, such as `t.router`. -/
def dottedName? (n : Node) : Option String :=
  match _h : n.unwrap with
  | .ident _ name => some name
  | .member _ base property => do
    let name ← property.plainProperty?
    let path ← base.dottedName?
    return path ++ "." ++ name
  | .thisRef _ => some "this"
  | _ => none
termination_by sizeOf n
decreasing_by
  have := sizeOf_unwrap_le n
  rw [_h] at this
  simp at this
  omega

end Node

structure Call where
  span : Span
  callee : Node
  args : List Node
  types : List Node

namespace Call

def toNode (c : Call) : Node := .call c.span c.callee c.args c.types

def path? (c : Call) : Option String := c.callee.dottedName?

/-- The last name of what is called: `f` for both `f()` and `a.f()`. -/
def name? (c : Call) : Option String :=
  match c.callee.unwrap with
  | .ident _ name => some name
  | .member _ _ property => property.plainProperty?
  | _ => none

def firstArg? (c : Call) : Option Node := c.args.head?.map Node.withoutSpread

end Call

def Node.asCall? : Node → Option Call
  | .call span callee args types => some ⟨span, callee, args, types⟩
  | _ => none

def Module.calls (m : Module) : List Call := m.preorder.filterMap Node.asCall?

end RouteAtlas.Script
