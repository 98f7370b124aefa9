import RouteAtlas.Script.Grammar.Callable

set_option autoImplicit false

namespace RouteAtlas.Script

open Parse

def memberName (g : Reader) : Parse Node := do
  match ← token with
  | .privateName text =>
    let lo ← here
    advance
    return .privateName (← since lo) text
  | _ => propertyName g

def isMethodStart : Parse Bool := do
  return (← isPunct "(") || ((← typed) && (← isPunct "<"))

/-- Whether a field may end or go on here; with `asi` a line end will do. -/
def isFieldEnd (asi : Bool) : Parse Bool := do
  if (← typed) && ((← isPunct "!") || (← isPunct ":")) then return true
  else if (← isPunct "=") || (← isPunct "\x7d") then return true
  else if asi then atStatementEnd
  else isPunct ";"

def fieldTail (g : Reader) (lo : Nat) (decorators : List Node) (key : Node) : Parse Node := do
  if ← typed then
    let _ ← eatPunct "!"
  let types ← typeAnnotation g
  let value ←
    if ← eatPunct "=" then
      let v ← within (fun c => { c with allowIn := true, beforeColon := false })
        (g.node .assignment)
      pure [v]
    else pure []
  let _ ← eatStatementEnd
  otherSince lo (key :: (value ++ types ++ decorators))

/-- A method of a class; one with a private name is no handler. -/
def classMethod (g : Reader) (lo : Nat) (decorators : List Node) (key : Node)
    (generator : Bool) : Parse Node := do
  let m ← methodTail g lo decorators key generator
  match key with
  | .privateName _ _ => return .other m.span m.children
  | _ => return m

def constructorParameter (g : Reader) : Parse Node := do
  if ← typed then
    let _ ← many (eatModifier ["public", "protected", "private", "readonly", "override"])
  parameterTarget g

def constructorTail (g : Reader) (lo : Nat) (key : Node) : Parse Node := do
  let types ← optionalTypeParameters g
  let params ← parameters g (constructorParameter g)
  let result ← typeAnnotation g
  let body ← functionBody g false
  otherSince lo (key :: (params ++ body.toList ++ types ++ result))

def isConstructorName : Node → Bool
  | .ident _ name => name == "constructor"
  | .str _ value => value == "constructor"
  | _ => false

def isWord (key : Node) (words : List String) : Bool :=
  match key with
  | .ident _ name => words.contains name
  | _ => false

def plainMember (g : Reader) (lo : Nat) (decorators : List Node) (isStatic readonly : Bool) :
    Parse Node := do
  if ← eatPunct "*" then
    let key ← memberName g
    classMethod g lo decorators key true
  else
    let key ←
      if readonly && ((← isPunct "!") || (← isPunct ":")) then
        pure (Node.ident ⟨lo, lo⟩ "readonly")
      else memberName g
    if ← typed then
      let _ ← eatPunct "?"
    if ← isMethodStart then
      if isConstructorName key && !isStatic then constructorTail g lo key
      else classMethod g lo decorators key false
    else
      let accessor ←
        if isWord key ["get", "set"] then
          if ← isFieldEnd false then pure false
          else
            let c ← get
            pure !(c.newline && c.token == .punct "*")
        else pure false
      if !accessor && (← isFieldEnd true) then fieldTail g lo decorators key
      else if isWord key ["async"] && !(← newline) then
        let generator ← eatPunct "*"
        let key ← memberName g
        if ← typed then
          let _ ← eatPunct "?"
        classMethod g lo decorators key generator
      else if accessor then
        let key ← memberName g
        if ← typed then
          let _ ← eatPunct "?"
        classMethod g lo decorators key false
      else fail

def namedByWord (g : Reader) (lo : Nat) (decorators : List Node) (word : Node) (asi : Bool) :
    Parse (Option Node) := do
  if ← isMethodStart then return some (← classMethod g lo decorators word false)
  else if ← isFieldEnd asi then return some (← fieldTail g lo decorators word)
  else return none

def eatWord (word : String) : Parse (Option Node) := do
  if ← isName word then return some (← anyName) else return none

def memberAfterStatic (g : Reader) (lo : Nat) (decorators : List Node) (isStatic : Bool) :
    Parse Node := do
  let modifiers ←
    if ← typed then many (eatModifier ["abstract", "readonly", "override", "static"])
    else pure []
  let isStatic := isStatic || modifiers.contains "static"
  let readonly := modifiers.contains "readonly"
  let accessor ← if ← typed then eatWord "accessor" else pure none
  match accessor with
  | some word =>
    match ← namedByWord g lo decorators word true with
    | some m => return m
    | none =>
      let key ← memberName g
      fieldTail g lo decorators key
  | none =>
    if isStatic && (← isPunct "\x7b") then
      let body ← functionBlock g false
      otherSince lo [body]
    else
      let index ←
        if (← typed) && !modifiers.contains "abstract" && !modifiers.contains "override" then
          attempt (indexSignature g)
        else pure none
      match index with
      | some m => return m
      | none => plainMember g lo decorators isStatic readonly

def classMember (g : Reader) : Parse Node := do
  let lo ← here
  let ds ← decorators g
  let declare ← if ← typed then eatWord "declare" else pure none
  if ← typed then
    let _ ← eatModifier ["public", "protected", "private"]
  let declare ←
    match declare with
    | some w => pure (some w)
    | none => if ← typed then eatWord "declare" else pure none
  let byDeclare ←
    match declare with
    | some word => namedByWord g lo ds word true
    | none => pure none
  match byDeclare with
  | some m => return m
  | none =>
    match ← eatWord "static" with
    | some word =>
      match ← namedByWord g lo ds word false with
      | some m => return m
      | none => memberAfterStatic g lo ds true
    | none => memberAfterStatic g lo ds false

/-- Members up to the closing brace. A class that is still open at the end of the text is taken
as closed there. -/
def classMembers (g : Reader) : Parse (List Node) := do
  expectPunct "\x7b"
  let members ← many do
    if (← isPunct "\x7d") || (← token) == .eof then return none
    else if ← eatPunct ";" then return some []
    else return some [← classMember g]
  if (← token) != .eof then expectPunct "\x7d"
  return members.flatten

def superclass (g : Reader) : Parse (List Node) := do
  let base ← g.node .callee
  let args ← if (← typed) && (← isLess) then typeArguments g else pure []
  return base :: args

def classAfterDecorators (g : Reader) (lo : Nat) (decorators : List Node) (named : Bool) :
    Parse Node := do
  expectName "class"
  let anonymous ← do
    if named then pure false
    else pure ((← isPunct "\x7b") || (← isName "extends") || (← isName "implements") ||
      ((← typed) && (← isPunct "<")))
  let name ← if anonymous then pure none else pure (some (← bindingName))
  let types ← optionalTypeParameters g
  let base ← if ← eatName "extends" then superclass g else pure []
  let extra ←
    if (← typed) && !base.isEmpty then
      many do
        if ← eatPunct "," then return some (← superclass g) else return none
    else pure []
  let interfaces ← if ← eatNameIf (← typed) "implements" then heritage g else pure []
  let members ← classMembers g
  return .classDef (← since lo) name decorators members (base ++ extra.flatten ++ types ++ interfaces)

end RouteAtlas.Script
