import RouteAtlas.Rpc.Matcher
import RouteAtlas.Rpc.Procedure

set_option autoImplicit false

namespace RouteAtlas.Rpc

open Script (Node Call Span)

def innerCalls (callee : Node) : List Call :=
  match _h : callee.unwrap with
  | .member _ base _ =>
    match _h' : base.unwrap with
    | .call span f args types => ⟨span, f, args, types⟩ :: innerCalls f
    | _ => []
  | _ => []
termination_by sizeOf callee
decreasing_by
  have h1 := Node.sizeOf_unwrap_le callee
  have h2 := Node.sizeOf_unwrap_le base
  rw [_h] at h1
  rw [_h'] at h2
  simp at h1 h2
  omega

def chain (c : Call) : List Call := c :: innerCalls c.callee

/-- The innermost call of a chain that makes a router, and the calls on top of it, the innermost
first. -/
def routerOf? (m : Matcher) (c : Call) : Option (Call × List Call) :=
  match (chain c).reverse.dropWhile fun c => !m.isRouterCall c with
  | router :: outer => some (router, outer)
  | [] => none

def methodName? (c : Call) : Option (String × Span) :=
  match c.callee.unwrap with
  | .member _ _ (.ident span name) => some (name, span)
  | _ => none

def kindOf? (c : Call) : Option ProcedureKind :=
  (methodName? c).bind fun (name, _) => ProcedureKind.ofName? name

/-- The name of what a chain of calls begins with: `db` in `ctx.db.query()`. -/
def chainBase? (c : Call) : Option String :=
  (chain c).getLast?.bind fun first =>
    match first.callee.unwrap with
    | .ident _ name => some name
    | .member _ base _ =>
      match base.unwrap with
      | .ident _ name => some name
      | .member _ _ property => property.plainProperty?
      | _ => none
    | _ => none

def firstText? (c : Call) : Option String := c.firstArg?.bind Node.constantText?

end RouteAtlas.Rpc
