import RouteAtlas.Script.Grammar.Types

set_option autoImplicit false

namespace RouteAtlas.Script

open Parse

structure Callable where
  params : List Node
  body : Option Node
  types : List Node

def Callable.parts (f : Callable) : List Node := f.params ++ (f.body.toList ++ f.types)

def functionBlock (g : Reader) (generator : Bool) : Parse Node :=
  within (fun c => { c with allowIn := true, beforeColon := false, inGenerator := generator })
    (g.node .block)

def functionBody (g : Reader) (generator : Bool) : Parse (Option Node) := do
  if (← typed) && !(← isPunct "\x7b") then
    if ← eatStatementEnd then return none else fail
  else return some (← functionBlock g generator)

def callable (g : Reader) (generator : Bool) : Parse Callable := do
  let types ← optionalTypeParameters g
  let params ← within (fun c => { c with inGenerator := generator }) (formalParameters g)
  let result ← returnType g
  let body ← functionBody g generator
  return ⟨params, body, types ++ result⟩

def functionAfterKeyword (g : Reader) (named : Bool) : Parse (Option Node × Callable) := do
  expectName "function"
  let generator ← eatPunct "*"
  let name ←
    if named || !(← isPunct "(") && !((← typed) && (← isPunct "<")) then
      pure (some (← bindingName))
    else pure none
  let f ← callable g generator
  return (name, f)

def asyncFunctionAhead : Parse Bool := do
  if ← isName "async" then
    return (← peekName "function") && (← peekSameLine)
  else return false

def functionExpression (g : Reader) : Parse Node := do
  let lo ← here
  let _ ← eatName "async"
  let (name, f) ← functionAfterKeyword g false
  if f.body.isNone then fail
  otherSince lo (name.toList ++ f.parts)

def functionDeclaration (g : Reader) : Parse Node := do
  let lo ← here
  let _ ← eatName "async"
  let (name, f) ← functionAfterKeyword g true
  match name with
  | some name => return .functionDef (← since lo) name f.parts
  | none => fail

def methodTail (g : Reader) (lo : Nat) (decorators : List Node) (key : Node)
    (generator : Bool) : Parse Node := do
  let f ← callable g generator
  return .method (← since lo) key f.params decorators (f.body.toList ++ f.types)

end RouteAtlas.Script
