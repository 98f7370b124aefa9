import RouteAtlas.Script.Grammar.Expression

set_option autoImplicit false

namespace RouteAtlas.Script

open Parse

def block (g : Reader) : Parse Phrase := do
  let lo ← here
  expectPunct "\x7b"
  let items ← within (fun c => { c with allowIn := true, beforeColon := false }) do
    many do
      if (← isPunct "\x7d") || (← token) == .eof then return none
      else return some (← g.node .listItem)
  expectPunct "\x7d"
  return ⟨← otherSince lo items, .plain⟩

def declarator (g : Reader) (inFor isConst : Bool) : Parse Node := do
  let lo ← here
  let target ← g.node .pattern
  let plain := target.name?.isSome
  if (← typed) && plain then
    let _ ← eatPunct "!"
  let types ← typeAnnotation g
  if inFor && ((← isName "in") || (← isName "of")) then
    return .declarator (← since lo) target types none
  else if ← eatPunct "=" then
    let value ← g.assignment
    return .declarator (← since lo) target types (some value)
  else if plain || isConst || (← get).context.ambient then
    return .declarator (← since lo) target types none
  else fail

def declarators (g : Reader) (inFor isConst : Bool) : Parse (List Node) := do
  let first ← declarator g inFor isConst
  let rest ← many do
    if ← eatPunct "," then return some (← declarator g inFor isConst) else return none
  return first :: rest

def skipToEnd : Parse Unit := do
  let _ ← many do
    if ← eatStatementEnd then return none
    else if (← token) == .bad then return none
    else
      advance
      return some ()
  return ()

def variableStatement (g : Reader) : Parse Node := do
  let lo ← here
  let isConst ← isName "const"
  advance
  let ds ← declarators g false isConst
  if !(← eatStatementEnd) then
    let _ ← recover (g .expression)
    skipToEnd
  return .varDecls (← since lo) ds

def letAhead : Parse Bool := do
  if ← isName "let" then
    peek do
      match ← token with
      | .name text _ => return !reservedWords.contains text
      | .punct p => return p == "[" || p == "\x7b"
      | _ => return false
  else return false

/-- Variables that are released at the end of their block. -/
def usingAhead : Parse Bool := do
  if (← typed) && (← isName "using") then
    peek do
      return !(← newline) && (← isReference) && !(← isName "in") && !(← isName "of")
  else return false

def usingStatement (g : Reader) : Parse Node := do
  let lo ← here
  advance
  let ds ← declarators g false false
  expectStatementEnd
  otherSince lo ds

/-! ## Declarations of the typed dialect -/

def enumMember (g : Reader) : Parse Node := do
  let lo ← here
  let name ← propertyName g
  let value ← if ← eatPunct "=" then pure [← g.inner] else pure []
  otherSince lo (name :: value)

def enumDeclaration (g : Reader) (lo : Nat) : Parse Node := do
  let _ ← eatName "const"
  expectName "enum"
  let name ← anyName
  expectPunct "\x7b"
  let members ← listUntil "\x7d" (enumMember g)
  otherSince lo (name :: members)

def interfaceDeclaration (g : Reader) (lo : Nat) : Parse Node := do
  expectName "interface"
  let name ← anyName
  let types ← optionalTypeParameters g
  let parents ← if ← eatName "extends" then heritage g else pure []
  let body ← typeMembers g
  otherSince lo (name :: (types ++ parents ++ [body]))

def typeAlias (g : Reader) (lo : Nat) : Parse Node := do
  expectName "type"
  let name ← anyName
  let types ← optionalTypeParameters g
  expectPunct "="
  let t ← g.type
  expectStatementEnd
  otherSince lo (name :: (types ++ [t]))

def namespaceBody (g : Reader) : Parse (List Node) := do
  expectPunct "\x7b"
  let items ← many do
    if (← isPunct "\x7d") || (← token) == .eof then return none
    else return some (← g.node .item)
  expectPunct "\x7d"
  return items

def namespaceDeclaration (g : Reader) (lo : Nat) : Parse Node := do
  advance
  if ← isString then
    let _ ← stringLiteral
    let body ← if ← isPunct "\x7b" then namespaceBody g else do expectStatementEnd; pure []
    otherSince lo body
  else
    let name ← entityName
    let body ← namespaceBody g
    otherSince lo (name :: body)

def globalDeclaration (g : Reader) (lo : Nat) : Parse Node := do
  advance
  let body ← namespaceBody g
  otherSince lo body

def nameFollows (sameLine : Bool) : Parse Bool :=
  peek do
    let fresh ← newline
    return (← isReference) && !(sameLine && fresh)

def typedDeclaration (g : Reader) (lo : Nat) (ds : List Node) : Parse (Option Node) := do
  match ← token with
  | .name "abstract" _ =>
    if (← peekName "class") && (← peekSameLine) then
      let start ← here
      advance
      return some (← classAfterDecorators g start ds true)
    else return none
  | .name "enum" _ => return some (← enumDeclaration g lo)
  | .name "const" _ =>
    if ← peekName "enum" then return some (← enumDeclaration g lo) else return none
  | .name "interface" _ =>
    if ← nameFollows true then return some (← interfaceDeclaration g lo) else return none
  | .name "type" _ =>
    if ← nameFollows true then return some (← typeAlias g lo) else return none
  | .name "namespace" _ =>
    if ← nameFollows true then return some (← namespaceDeclaration g lo) else return none
  | .name "module" _ =>
    if (← nameFollows true) || ((← peek isString) && (← peekSameLine)) then
      return some (← namespaceDeclaration g lo)
    else return none
  | .name "global" _ =>
    if ← peekPunct "\x7b" then return some (← globalDeclaration g lo) else return none
  | _ => return none

def ambientDeclaration (g : Reader) (lo : Nat) (ds : List Node) : Parse (Option Node) :=
  within (fun c => { c with ambient := true }) do
    if (← isName "function") || (← asyncFunctionAhead) then
      return some (← functionDeclaration g)
    else if ← isName "class" then return some (← classAfterDecorators g lo ds true)
    else
      match ← typedDeclaration g lo ds with
      | some d => return some d
      | none =>
        if (← isName "const") || (← isName "var") || (← isName "let") then
          return some (← variableStatement g)
        else return none

def declareStatement (g : Reader) (lo : Nat) (ds : List Node) : Parse (Option Node) := do
  if (← isName "declare") && (← peekSameLine) then
    let found ← attempt do
      advance
      match ← ambientDeclaration g lo ds with
      | some d => return d
      | none => fail
    return found
  else return none

/-! ## Control flow -/

def condition (g : Reader) : Parse Node := do
  expectPunct "("
  let e ← g.enclosed
  expectPunct ")"
  return e

def ifStatement (g : Reader) : Parse Node := do
  let lo ← here
  expectName "if"
  let test ← condition g
  let yes ← g.node .statement
  let no ← if ← eatName "else" then pure [← g.node .statement] else pure []
  otherSince lo (test :: yes :: no)

def whileStatement (g : Reader) : Parse Node := do
  let lo ← here
  advance
  let test ← condition g
  let body ← g.node .statement
  otherSince lo [test, body]

/-- The test of a `do` loop is visited before its body. -/
def doStatement (g : Reader) : Parse Node := do
  let lo ← here
  expectName "do"
  let body ← g.node .statement
  expectName "while"
  let test ← condition g
  let _ ← eatPunct ";"
  otherSince lo [test, body]

def forTail (g : Reader) : Parse (List Node) := do
  let test ←
    if ← isPunct ";" then pure [] else pure [← g.enclosed]
  expectPunct ";"
  let step ← if ← isPunct ")" then pure [] else pure [← g.enclosed]
  return test ++ step

def forEachTail (g : Reader) : Parse Node := do
  if ← eatName "of" then g.inner
  else
    expectName "in"
    g.enclosed

def forHead (g : Reader) : Parse (List Node) := do
  let lo ← here
  let declares ← do
    if (← isName "const") || (← isName "var") then pure true
    else if ← letAhead then pure true
    else usingAhead
  if declares then
    let isConst ← isName "const"
    advance
    let ds ← within (fun c => { c with allowIn := false }) (declarators g true isConst)
    let d : Node := .varDecls (← since lo) ds
    if (← isName "of") || (← isName "in") then
      let source ← forEachTail g
      return [d, source]
    else
      expectPunct ";"
      let rest ← forTail g
      return d :: rest
  else if ← eatPunct ";" then forTail g
  else
    let e ← within (fun c => { c with allowIn := false, beforeColon := false })
      (g.node .expression)
    if (← isName "of") || (← isName "in") then
      let target ← asTarget e
      let source ← forEachTail g
      return [target, source]
    else
      expectPunct ";"
      let rest ← forTail g
      return e :: rest

def forStatement (g : Reader) : Parse Node := do
  let lo ← here
  expectName "for"
  let _ ← eatName "await"
  expectPunct "("
  let head ← forHead g
  expectPunct ")"
  let body ← g.node .statement
  otherSince lo (head ++ [body])

def switchCase (g : Reader) : Parse (Node × Bool) := do
  let lo ← here
  let isDefault ← isName "default"
  advance
  let test ← if isDefault then pure none else pure (some (← g.enclosed))
  expectPunct ":"
  let body ← many do
    if (← isName "case") || (← isName "default") || (← isPunct "\x7d") || (← token) == .eof then
      return none
    else return some (← g.node .listItem)
  return (.switchCase (← since lo) test body, isDefault)

def switchStatement (g : Reader) : Parse Node := do
  let lo ← here
  expectName "switch"
  let subject ← condition g
  expectPunct "\x7b"
  let cases ← many do
    if (← isName "case") || (← isName "default") then return some (← switchCase g)
    else return none
  if (cases.filter (·.2)).length > 1 then fail
  expectPunct "\x7d"
  return .switch (← since lo) subject (cases.map (·.1))

def catchClause (g : Reader) : Parse (List Node) := do
  if ← eatName "catch" then
    let param ←
      if ← eatPunct "(" then
        let p ← g.node .pattern
        let types ← typeAnnotation g
        expectPunct ")"
        pure (p :: types)
      else pure []
    let body ← g.node .block
    return param ++ [body]
  else return []

def finallyClause (g : Reader) : Parse (List Node) := do
  if ← eatName "finally" then return [← g.node .block] else return []

def tryStatement (g : Reader) : Parse Node := do
  let lo ← here
  let body ← if ← eatName "try" then pure [← g.node .block] else pure []
  let handler ← catchClause g
  let cleanup ← finallyClause g
  otherSince lo (body ++ handler ++ cleanup)

def jumpStatement : Parse Node := do
  let lo ← here
  advance
  if ← eatStatementEnd then otherSince lo []
  else
    let label ← anyName
    expectStatementEnd
    otherSince lo [label]

def returnStatement (g : Reader) : Parse Node := do
  let lo ← here
  advance
  if ← eatStatementEnd then otherSince lo []
  else
    let e ← g.enclosed
    expectStatementEnd
    otherSince lo [e]

def throwStatement (g : Reader) : Parse Node := do
  let lo ← here
  advance
  if ← newline then fail
  let e ← g.enclosed
  expectStatementEnd
  otherSince lo [e]

def withStatement (g : Reader) : Parse Node := do
  let lo ← here
  advance
  let subject ← condition g
  let body ← g.node .statement
  otherSince lo [subject, body]

/-! ## Statements -/

/-- An expression as a statement, or a labelled statement. A binary operator after an expression
that should have ended goes on with it. -/
def expressionStatement (g : Reader) : Parse Node := do
  let lo ← here
  let e ← within (fun c => { c with allowIn := true, beforeColon := false }) (g .expression)
  if e.node.name?.isSome && (← isPunct ":") then
    advance
    let body ← g.node .statement
    otherSince lo [e.node, body]
  else if ← eatStatementEnd then return .statement (← since lo) e.node
  else
    match ← binaryOperator with
    | some _ =>
      let more ← iterate { e with form := .plain } (binaryStep g lo 0)
      return .statement (← since lo) more.node
    | none => fail

def keywordStatement (g : Reader) (text : String) : Parse (Option Node) := do
  let lo ← here
  match text with
  | "if" => return some (← ifStatement g)
  | "for" => return some (← forStatement g)
  | "while" => return some (← whileStatement g)
  | "do" => return some (← doStatement g)
  | "switch" => return some (← switchStatement g)
  | "try" | "catch" | "finally" => return some (← tryStatement g)
  | "break" | "continue" => return some (← jumpStatement)
  | "return" => return some (← returnStatement g)
  | "throw" => return some (← throwStatement g)
  | "with" => return some (← withStatement g)
  | "function" => return some (← functionDeclaration g)
  | "var" => return some (← variableStatement g)
  | "debugger" =>
    advance
    expectStatementEnd
    return some (← otherSince lo [])
  | _ => return none

/-- A statement whose decorators have been read. Declarations of block scope stand only where
`declarations` is set. -/
def statementAfter (g : Reader) (lo : Nat) (ds : List Node) (declarations : Bool) :
    Parse Node := do
  let start ← here
  match ← token with
  | .punct "\x7b" => g.node .block
  | .punct ";" =>
    advance
    otherSince start []
  | .name text escaped =>
    let typedDecl ← if ← typed then typedDeclaration g lo ds else pure none
    match typedDecl with
    | some d => return d
    | none =>
      let declared ← if ← typed then declareStatement g lo ds else pure none
      match declared with
      | some d => return d
      | none =>
        if text == "class" then classAfterDecorators g lo ds true
        else if ← asyncFunctionAhead then functionDeclaration g
        else if declarations && text == "const" then variableStatement g
        else if declarations && (← letAhead) then variableStatement g
        else if declarations && (← usingAhead) then usingStatement g
        else
          let known ← if escaped then pure none else keywordStatement g text
          match known with
          | some s => return s
          | none => expressionStatement g
  | _ => expressionStatement g

def statementOf (g : Reader) (declarations : Bool) : Parse Phrase := do
  let lo ← here
  let ds ← decorators g
  if (← isName "export") ||
      ((← isName "import") && !(← peekPunct "(") && !(← peekPunct ".")) then fail
  return ⟨← statementAfter g lo ds declarations, .plain⟩

end RouteAtlas.Script
