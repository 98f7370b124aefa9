import RouteAtlas.Script.Cursor
import RouteAtlas.Script.Item

set_option autoImplicit false

namespace RouteAtlas.Script

/-- What must be remembered of an expression to know how it may go on. -/
inductive Form where
  | plain
  /-- An arrow function, after which an expression ends. -/
  | arrow
  /-- Part of an optional chain. -/
  | chain
  /-- `new` without arguments. -/
  | bareNew
  /-- A conditional, a binary or a unary expression, to which nothing is assigned. -/
  | compound
  /-- `super` or `import`, which mean nothing alone. -/
  | incomplete
  deriving DecidableEq, Repr

structure Phrase where
  node : Node
  form : Form := .plain

inductive Goal where
  | assignment
  | expression
  | unary
  /-- An operand with all operators that bind tighter than the given strength. -/
  | operand (least : Nat)
  | callee
  | newTarget
  | decorator
  | element
  | type
  | plainType
  | pattern
  | block
  | statement
  | listItem
  | item
  deriving DecidableEq, Repr

abbrev Reader := Goal → Parse Phrase

namespace Reader

def node (g : Reader) (goal : Goal) : Parse Node := do return (← g goal).node

def assignment (g : Reader) : Parse Node := g.node .assignment

/-- An assignment expression where `in` is an operator, whatever the surroundings. -/
def inner (g : Reader) : Parse Node :=
  Parse.within (fun c => { c with allowIn := true }) (g.node .assignment)

def enclosed (g : Reader) : Parse Node :=
  Parse.within (fun c => { c with allowIn := true, beforeColon := false }) (g.node .expression)

def type (g : Reader) : Parse Node := g.node .type

end Reader

open Parse

def patternSince (lo : Nat) (keys targets defaults : List Node) : Parse Node := do
  return .pattern (← since lo) keys targets defaults

def otherSince (lo : Nat) (parts : List Node) : Parse Node := do
  return .other (← since lo) parts

def stringLiteral : Parse String := do
  match ← token with
  | .str value => advance; return value
  | _ => fail

def propertyName (g : Reader) : Parse Node := do
  let lo ← here
  match ← token with
  | .name _ _ => anyName
  | .str value =>
    advance
    return .str (← since lo) value
  | .number text =>
    advance
    return .number (← since lo) text
  | .bigint =>
    advance
    otherSince lo []
  | .punct "[" =>
    advance
    let e ← within (fun c => { c with allowIn := true, beforeColon := false }) (g.node .assignment)
    expectPunct "]"
    return .computed (← since lo) e
  | _ => fail

def templatePieces (part : Parse Node) : Parse (List Token.Piece × List Node) := do
  let c ← get
  if c.token != .tick then fail
  let size := c.size
  go size c.hi c.rest
where
  go : Nat → Nat → List Char → Parse (List Token.Piece × List Node)
    | 0, _, _ => fail
    | n + 1, pos, text => do
      let size := (← get).size
      match Token.templatePiece size text (some []) [] 0 with
      | none => fail
      | some piece =>
        jump (pos + piece.length) piece.rest
        if piece.isLast then return ([piece], [])
        else
          let e ← part
          let c ← get
          if c.token != .punct "\x7d" then fail
          let (pieces, parts) ← go n c.hi c.rest
          return (piece :: pieces, e :: parts)

end RouteAtlas.Script
