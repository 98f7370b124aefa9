import RouteAtlas.Script.Grammar.Phrase

set_option autoImplicit false

namespace RouteAtlas.Script

open Parse

def defaultValue (g : Reader) : Parse (List Node) := do
  if ← eatPunct "=" then return [← g.inner] else return []

def typeAnnotation (g : Reader) : Parse (List Node) := do
  if ← eatPunctIf (← typed) ":" then return [← g.type] else return []

def bindingElement (g : Reader) : Parse Node := do
  let lo ← here
  let target ← g.node .pattern
  let value ← defaultValue g
  if value.isEmpty then return target else patternSince lo [] [target] value

def arrayPattern (g : Reader) : Parse Node := do
  let lo ← here
  expectPunct "["
  let elements ← many do
    if ← isPunct "]" then return none
    else if ← eatPunct "," then return some []
    else
      let start ← here
      let element ←
        if ← eatPunct "..." then
          let target ← g.node .pattern
          patternSince start [] [target] []
        else bindingElement g
      if !(← isPunct "]") then expectPunct ","
      return some [element]
  expectPunct "]"
  patternSince lo [] elements.flatten []

def objectPatternProperty (g : Reader) : Parse Node := do
  let lo ← here
  if ← eatPunct "..." then
    let target ← g.node .pattern
    patternSince lo [] [target] []
  else
    let key ← propertyName g
    if ← eatPunct ":" then
      let value ← bindingElement g
      patternSince lo [key] [value] []
    else
      match key with
      | .ident _ _ =>
        let value ← defaultValue g
        patternSince lo [] [key] value
      | _ => fail

def objectPattern (g : Reader) : Parse Node := do
  let lo ← here
  expectPunct "\x7b"
  let properties ← listUntil "\x7d" (objectPatternProperty g)
  patternSince lo [] properties []

def pattern (g : Reader) : Parse Phrase := do
  if ← isPunct "[" then return ⟨← arrayPattern g, .plain⟩
  else if ← isPunct "\x7b" then return ⟨← objectPattern g, .plain⟩
  else return ⟨← bindingName, .plain⟩

mutual
/-- An expression read again as a pattern. Where names are introduced (`binding`), anything but
names and nested patterns loses its parts. -/
def toPattern (binding : Bool) : Node → Option Node
  | .ident s name => some (.ident s name)
  | .object s properties => (toPatternProperties binding properties).map (.other s)
  | .array s elements => (toPatternElements binding elements).map (.other s)
  | .other s parts => some (.other s parts)
  | n => some (if binding then .other n.span [] else n)

def toPatternProperties (binding : Bool) : List Node → Option (List Node)
  | [] => some []
  | .keyValue s key value :: rest => do
    let value ← toPattern binding value
    let rest ← toPatternProperties binding rest
    return .other s [key, value] :: rest
  | .shorthand s name :: rest => do
    let rest ← toPatternProperties binding rest
    return .ident s name :: rest
  | .spread s inner :: rest => do
    let inner ← toPattern binding inner
    let rest ← toPatternProperties binding rest
    return .other s [inner] :: rest
  | .other s parts :: rest => do
    let rest ← toPatternProperties binding rest
    return .other s parts :: rest
  | _ :: _ => none

def toPatternElements (binding : Bool) : List Node → Option (List Node)
  | [] => some []
  | .hole s :: rest => do
    let rest ← toPatternElements binding rest
    return .hole s :: rest
  | .spread s inner :: rest => do
    let inner ← toPattern binding inner
    let rest ← toPatternElements binding rest
    return .other s [inner] :: rest
  | n :: rest => do
    let n ← toPattern binding n
    let rest ← toPatternElements binding rest
    return n :: rest
end

def asPattern (binding : Bool) (n : Node) : Parse Node :=
  match toPattern binding n with
  | some p => pure p
  | none => fail

/-- The left side of a plain assignment: object and array literals are patterns there. -/
def asTarget (n : Node) : Parse Node :=
  match n with
  | .object _ _ => asPattern false n
  | .array _ _ => asPattern false n
  | n => pure n

def accessWords : List String := ["public", "protected", "private", "readonly"]

def skipModifier : Parse Unit := do
  match ← token with
  | .name text _ =>
    if (← typed) && accessWords.contains text then
      if (← peek isAnyName) || (← peekPunct "\x7b") || (← peekPunct "[") then advance
  | _ => return ()

def argument (g : Reader) : Parse Node := do
  let lo ← here
  if ← eatPunct "..." then
    let e ← g.assignment
    return .spread (← since lo) e
  else g.assignment

def arguments (g : Reader) : Parse (List Node) := do
  expectPunct "("
  within (fun c => { c with allowIn := true, beforeColon := false }) (listUntil ")" (argument g))

def typeArguments (g : Reader) : Parse (List Node) := do
  expectLess
  listUntil ">" g.type

def decoratorArguments (g : Reader) (lo : Nat) (callee : Node) : Parse Node := do
  let types ← if (← typed) && (← isPunct "<") then typeArguments g else pure []
  if types.isEmpty && !(← isPunct "(") then return callee
  else
    let args ← arguments g
    return .call (← since lo) callee args types

def decorator (g : Reader) : Parse Node := do
  expectPunct "@"
  g.node .decorator

def decorators (g : Reader) : Parse (List Node) :=
  many do
    if ← isPunct "@" then return some (← decorator g) else return none

def parameterTarget (g : Reader) : Parse Node := do
  let lo ← here
  skipModifier
  let target ← g.node .pattern
  if ← typed then
    let _ ← eatPunct "?"
  let types ← typeAnnotation g
  let value ← if ← eatPunct "=" then pure [← g.assignment] else pure []
  if types.isEmpty && value.isEmpty then return target
  else otherSince lo (target :: (types ++ value))

def restParameter (g : Reader) (lo : Nat) : Parse Node := do
  let target ← g.node .pattern
  let value ← if ← eatPunct "=" then pure [← g.assignment] else pure []
  let types ← typeAnnotation g
  if ← typed then
    let _ ← eatPunct "?"
  otherSince lo (target :: (value ++ types))

def parameter (g : Reader) (target : Parse Node) : Parse Node := do
  let lo ← here
  let ds ← decorators g
  let start ← here
  let t ← if ← eatPunct "..." then restParameter g start else target
  return .param (← since lo) ds t

def parameters (g : Reader) (target : Parse Node) : Parse (List Node) := do
  expectPunct "("
  within (fun c => { c with allowIn := true, beforeColon := false })
    (listUntil ")" (parameter g target))

def formalParameters (g : Reader) : Parse (List Node) := parameters g (parameterTarget g)

end RouteAtlas.Script
