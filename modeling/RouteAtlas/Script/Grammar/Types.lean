import RouteAtlas.Script.Grammar.Binding

set_option autoImplicit false

namespace RouteAtlas.Script

open Parse

def typeParameter (g : Reader) : Parse Node := do
  let lo ← here
  let _ ← many do
    match ← token with
    | .name text _ =>
      if ["const", "in", "out"].contains text && (← peek isAnyName) then
        advance
        return some ()
      else return none
    | _ => return none
  let name ← anyName
  let bound ← if ← eatName "extends" then pure [← g.type] else pure []
  let standard ← if ← eatPunct "=" then pure [← g.type] else pure []
  otherSince lo (name :: (bound ++ standard))

def typeParameters (g : Reader) : Parse (List Node) := do
  expectLess
  listUntil ">" (typeParameter g)

def optionalTypeParameters (g : Reader) : Parse (List Node) := do
  if (← typed) && (← isPunct "<") then typeParameters g else return []

def typePredicate (g : Reader) : Parse Node := do
  let lo ← here
  let asserts ←
    if (← isName "asserts") && (← peek isAnyName) && (← peekSameLine) && !(← peekName "is") then
      advance
      pure true
    else pure false
  let subject ← anyName
  if ← eatNameIf (!(← newline)) "is" then
    let t ← g.type
    otherSince lo [subject, t]
  else if asserts then otherSince lo [subject]
  else fail

def typeOrPredicate (g : Reader) : Parse Node := do
  match ← attempt (typePredicate g) with
  | some t => return t
  | none => g.type

def returnType (g : Reader) : Parse (List Node) := do
  if ← eatPunctIf (← typed) ":" then return [← typeOrPredicate g] else return []

def functionTypeAhead (g : Reader) : Parse Bool := do
  if ← isPunct "<" then return true
  else if ← isPunct "(" then
    ahead do
      advance
      if (← isPunct ")") || (← isPunct "...") then return ()
      skipModifier
      if (← isPunct "\x7b") || (← isPunct "[") then
        let _ ← g .pattern
      else
        let _ ← anyName
      if (← isPunct ":") || (← isPunct ",") || (← isPunct "?") || (← isPunct "=") then return ()
      expectPunct ")"
      expectPunct "=>"
  else return false

def functionType (g : Reader) : Parse Node := do
  let lo ← here
  let types ← optionalTypeParameters g
  let params ← formalParameters g
  expectPunct "=>"
  let result ← typeOrPredicate g
  otherSince lo (types ++ params ++ [result])

def entityName : Parse Node := do
  let lo ← here
  let first ← anyName
  iterate first fun base => do
    if ← isPunct "." then
      advance
      let property ← anyName
      return some (← otherSince lo [base, property])
    else return none

def typeReference (g : Reader) : Parse Node := do
  let lo ← here
  let name ← entityName
  if !(← newline) && (← isLess) then
    let args ← typeArguments g
    otherSince lo (name :: args)
  else return name

def endMember : Parse Unit := do
  if !(← eatPunct ",") then expectStatementEnd

def indexSignature (g : Reader) : Parse Node := do
  let lo ← here
  expectPunct "["
  let name ← bindingName
  expectPunct ":"
  let key ← g.type
  expectPunct "]"
  let result ← typeAnnotation g
  endMember
  otherSince lo (name :: key :: result)

def eatModifier (words : List String) : Parse (Option String) := do
  match ← token with
  | .name text _ =>
    if words.contains text then
      let follows ← peek do
        let c ← get
        let starts := match c.token with
          | .name _ _ => true
          | .str _ => true
          | .number _ => true
          | .bigint => true
          | .privateName _ => true
          | .punct p => ["[", "\x7b", "*", "..."].contains p
          | _ => false
        return !c.newline && starts
      if follows then
        advance
        return some text
      else return none
    else return none
  | _ => return none

def signature (g : Reader) : Parse (List Node) := do
  let types ← optionalTypeParameters g
  let params ← formalParameters g
  let result ← returnType g
  return types ++ params ++ result

def accessorSignature (g : Reader) : Parse Node := do
  let lo ← here
  if !(← eatName "get") then expectName "set"
  let key ← propertyName g
  let params ← formalParameters g
  let result ← typeAnnotation g
  endMember
  otherSince lo (key :: (params ++ result))

def propertySignature (g : Reader) : Parse Node := do
  let lo ← here
  let key ← propertyName g
  let _ ← eatPunct "?"
  let rest ←
    if (← isPunct "(") || (← isPunct "<") then signature g else typeAnnotation g
  endMember
  otherSince lo (key :: rest)

def typeMember (g : Reader) : Parse Node := do
  let lo ← here
  if (← isPunct "(") || (← isPunct "<") then
    let s ← signature g
    endMember
    otherSince lo s
  else if (← isName "new") && ((← peekPunct "(") || (← peekPunct "<")) then
    advance
    let s ← signature g
    endMember
    otherSince lo s
  else
    let _ ← eatModifier ["readonly"]
    match ← attempt (indexSignature g) with
    | some m => return m
    | none =>
      match ← attempt (accessorSignature g) with
      | some m => return m
      | none => propertySignature g

def typeMembers (g : Reader) : Parse Node := do
  let lo ← here
  expectPunct "\x7b"
  let members ← many do
    if ← isPunct "\x7d" then return none else return some (← typeMember g)
  expectPunct "\x7d"
  otherSince lo members

def mappedModifier (word : String) : Parse Unit := do
  if ← eatOneOf ["+", "-"] then
    if word == "?" then expectPunct "?" else expectName word
  else if word == "?" then
    let _ ← eatPunct "?"
  else
    let _ ← eatName word

def mappedType (g : Reader) : Parse Node := do
  let lo ← here
  expectPunct "\x7b"
  mappedModifier "readonly"
  expectPunct "["
  let name ← anyName
  expectName "in"
  let source ← g.type
  let renamed ← if ← eatName "as" then pure [← g.type] else pure []
  expectPunct "]"
  mappedModifier "?"
  let result ← typeAnnotation g
  expectStatementEnd
  expectPunct "\x7d"
  otherSince lo (name :: source :: (renamed ++ result))

def mappedTypeAhead : Parse Bool :=
  ahead do
    expectPunct "\x7b"
    if ← eatOneOf ["+", "-"] then
      if ← isName "readonly" then return () else fail
    let _ ← eatName "readonly"
    expectPunct "["
    let _ ← anyName
    if ← isName "in" then return () else fail

def tupleElement (g : Reader) : Parse Node := do
  let lo ← here
  let _ ← eatPunct "..."
  let labelled ← ahead do
    let _ ← anyName
    let _ ← eatPunct "?"
    expectPunct ":"
  let label ←
    if labelled then
      let name ← anyName
      let _ ← eatPunct "?"
      expectPunct ":"
      let _ ← eatPunct "..."
      pure [name]
    else pure []
  let t ← g.type
  let _ ← eatPunct "?"
  otherSince lo (label ++ [t])

def tupleType (g : Reader) : Parse Node := do
  let lo ← here
  expectPunct "["
  let elements ← listUntil "]" (tupleElement g)
  otherSince lo elements

def importType (g : Reader) : Parse Node := do
  let lo ← here
  expectName "import"
  expectPunct "("
  let _ ← stringLiteral
  if ← eatPunct "," then
    if ← isPunct "\x7b" then
      let _ ← g .assignment
      let _ ← eatPunct ","
  expectPunct ")"
  let qualifier ← if ← eatPunct "." then pure [← entityName] else pure []
  let args ← if ← isLess then typeArguments g else pure []
  otherSince lo (qualifier ++ args)

def typeQuery (g : Reader) : Parse Node := do
  let lo ← here
  expectName "typeof"
  if ← isName "import" then importType g
  else
    let name ← entityName
    if !(← newline) && (← isLess) then
      let args ← typeArguments g
      otherSince lo (name :: args)
    else return name

def templateType (g : Reader) : Parse Node := do
  let lo ← here
  let (_, parts) ← templatePieces g.type
  otherSince lo parts

def keywordTypes : List String :=
  ["any", "bigint", "boolean", "never", "number", "null", "object", "string", "symbol",
    "undefined", "unknown", "void", "true", "false"]

def namedType (g : Reader) (text : String) : Parse Node := do
  let lo ← here
  if text == "asserts" && (← peekName "this") then
    advance
    advance
    if ← eatName "is" then
      let t ← g.type
      otherSince lo [t]
    else otherSince lo []
  else if keywordTypes.contains text && !(← peekPunct ".") then
    advance
    otherSince lo []
  else if text == "import" then importType g
  else if text == "typeof" then typeQuery g
  else if text == "this" then
    advance
    if ← eatNameIf (!(← newline)) "is" then
      let t ← g.type
      otherSince lo [t]
    else otherSince lo []
  else if reservedWords.contains text && text != "break" && text != "null" && text != "void" then
    fail
  else typeReference g

def simpleType (g : Reader) : Parse Node := do
  let lo ← here
  match ← token with
  | .name text _ => namedType g text
  | .str _ => advance; otherSince lo []
  | .number _ => advance; otherSince lo []
  | .bigint => advance; otherSince lo []
  | .tick => templateType g
  | .punct "-" =>
    advance
    match ← token with
    | .number _ => advance; otherSince lo []
    | .bigint => advance; otherSince lo []
    | _ => fail
  | .punct "\x7b" => if ← mappedTypeAhead then mappedType g else typeMembers g
  | .punct "[" => tupleType g
  | .punct "(" =>
    advance
    let t ← g.type
    expectPunct ")"
    return t
  | _ => fail

def arrayType (g : Reader) : Parse Node := do
  let lo ← here
  let first ← simpleType g
  iterate first fun base => do
    if ← eatPunctIf (!(← newline)) "[" then
      if ← eatPunct "]" then return some base
      else
        let index ← g.type
        expectPunct "]"
        return some (← otherSince lo [base, index])
    else return none

/-- `infer X`, with a bound unless a question mark shows that the bound begins a conditional of
its own. -/
def inferType (g : Reader) : Parse Node := do
  let lo ← here
  expectName "infer"
  let name ← anyName
  let bound ←
    if ← isName "extends" then
      attempt do
        advance
        let t ← g.node .plainType
        let single := (← get).context.afterExtends
        if !single && (← isPunct "?") then fail
        return t
    else pure none
  otherSince lo (name :: bound.toList)

def operatorType (g : Reader) : Parse Node := do
  let size := (← get).size
  go size
where
  go : Nat → Parse Node
    | 0 => fail
    | n + 1 => do
      if (← isName "keyof") || (← isName "unique") || (← isName "readonly") then
        advance
        go n
      else if ← isName "infer" then inferType g
      else arrayType g

def joinedTypes (operator : String) (item : Parse Node) : Parse Node := do
  let lo ← here
  let _ ← eatPunct operator
  let first ← item
  let rest ← many do
    if ← eatPunct operator then return some (← item) else return none
  if rest.isEmpty then return first else otherSince lo (first :: rest)

def unionType (g : Reader) : Parse Node := joinedTypes "|" (joinedTypes "&" (operatorType g))

def plainType (g : Reader) : Parse Phrase := do
  if ← functionTypeAhead g then return ⟨← functionType g, .plain⟩
  else if (← isName "new") || ((← isName "abstract") && (← peekName "new")) then
    let _ ← eatName "abstract"
    expectName "new"
    return ⟨← functionType g, .plain⟩
  else return ⟨← unionType g, .plain⟩

def typeExpression (g : Reader) : Parse Phrase := do
  let lo ← here
  let t ← within (fun c => { c with afterExtends := false }) (plainType g)
  if ← eatNameIf (!(← newline)) "extends" then
    let bound ← within (fun c => { c with afterExtends := true }) (g.node .plainType)
    expectPunct "?"
    let yes ← g.type
    expectPunct ":"
    let no ← g.type
    return ⟨← otherSince lo [t.node, bound, yes, no], .plain⟩
  else return t

def heritage (g : Reader) : Parse (List Node) := do
  let item := do
    let lo ← here
    let name ← entityName
    let args ← if ← isLess then typeArguments g else pure []
    if args.isEmpty then return name else otherSince lo (name :: args)
  let first ← item
  let rest ← many do
    if ← eatPunct "," then return some (← item) else return none
  return first :: rest

end RouteAtlas.Script
