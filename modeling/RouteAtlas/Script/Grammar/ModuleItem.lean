import RouteAtlas.Script.Grammar.Statement

set_option autoImplicit false

namespace RouteAtlas.Script

open Parse

def exportName : Parse Node := do
  match ← token with
  | .str value =>
    let lo ← here
    advance
    return .str (← since lo) value
  | _ => anyName

/-- `type` before a name in a list; the word may itself be the name. -/
def typeMarker : Parse Bool := do
  if (← typed) && (← isName "type") then
    ahead do
      advance
      if ← eatName "as" then
        if (← isPunct ",") || (← isPunct "\x7d") then return ()
        expectName "as"
        let _ ← anyName
      else
        let _ ← exportName
  else return false

def importAttributes (g : Reader) : Parse (List Node) := do
  if (← typed) && !(← newline) && ((← isName "with") || (← isName "assert")) then
    advance
    return [← objectLiteral g]
  else return []

def fromClause (g : Reader) : Parse (String × List Node) := do
  expectName "from"
  let source ← stringLiteral
  let attributes ← importAttributes g
  expectStatementEnd
  return (source, attributes)

def importSpecifier : Parse ImportSpecifier := do
  let typeOnly ← typeMarker
  if typeOnly then advance
  let orig ← exportName
  if ← eatName "as" then
    let name ← bindingName
    return ⟨.named, typeOnly, name, some orig⟩
  else
    match orig with
    | .ident _ text =>
      if reservedWords.contains text then fail else return ⟨.named, typeOnly, orig, none⟩
    | _ => fail

def importSpecifiers : Parse (List ImportSpecifier) := do
  let first ←
    if ← isAnyName then
      let name ← bindingName
      if !(← isName "from") then expectPunct ","
      pure [ImportSpecifier.mk .default false name none]
    else pure []
  if ← eatPunct "*" then
    expectName "as"
    let name ← bindingName
    return first ++ [⟨.namespace, false, name, none⟩]
  else if ← eatPunct "\x7b" then
    let named ← listUntil "\x7d" importSpecifier
    return first ++ named
  else return first

/-- Whether `type` after `import` marks the whole import. -/
def importTypeAhead : Parse Bool := do
  if (← typed) && (← isName "type") then
    peek do
      if (← isPunct "\x7b") || (← isPunct "*") then return true
      else if ← isName "from" then peek (isName "from")
      else isAnyName
  else return false

def importEquals (lo : Nat) : Parse Item := do
  let name ← bindingName
  expectPunct "="
  let target ←
    if (← isName "require") && (← peekPunct "(") then
      advance
      expectPunct "("
      let _ ← stringLiteral
      expectPunct ")"
      pure []
    else pure [← entityName]
  expectStatementEnd
  return .other (← since lo) (name :: target)

def importItem (g : Reader) : Parse Item := do
  let lo ← here
  expectName "import"
  if ← isString then
    let source ← stringLiteral
    let attributes ← importAttributes g
    expectStatementEnd
    return .importDecl (← since lo) false source [] attributes
  else
    let typeOnly ← importTypeAhead
    if typeOnly then advance
    if (← typed) && (← isReference) && (← peekPunct "=") then importEquals lo
    else
      let specifiers ← importSpecifiers
      let (source, attributes) ← fromClause g
      return .importDecl (← since lo) typeOnly source specifiers attributes

def exportSpecifier : Parse ExportSpecifier := do
  let lo ← here
  let typeOnly ← typeMarker
  if typeOnly then advance
  let orig ← exportName
  if ← eatName "as" then
    let exported ← exportName
    return .named (← since lo) typeOnly orig (some exported)
  else return .named (← since lo) typeOnly orig none

def exportList (g : Reader) (lo : Nat) (typeOnly : Bool) : Parse Item := do
  expectPunct "\x7b"
  let specifiers ← listUntil "\x7d" exportSpecifier
  if ← isName "from" then
    let (source, attributes) ← fromClause g
    return .exportNamed (← since lo) typeOnly specifiers (some source) attributes
  else
    expectStatementEnd
    return .exportNamed (← since lo) typeOnly specifiers none []

def exportStar (g : Reader) (lo : Nat) (typeOnly : Bool) : Parse Item := do
  expectPunct "*"
  if ← eatName "as" then
    let name ← exportName
    let (source, attributes) ← fromClause g
    return .exportNamed (← since lo) typeOnly [.namespace name] (some source) attributes
  else
    let (source, attributes) ← fromClause g
    return .exportAll (← since lo) typeOnly source attributes

def defaultClass (g : Reader) (lo : Nat) (ds : List Node) : Parse Item := do
  let start ← here
  let node ← classAfterDecorators g start ds false
  let name := match node with
    | .classDef _ (some n) _ _ _ => n.name?
    | _ => none
  return .exportDefaultDecl (← since lo) (.classLike name node)

def defaultFunction (g : Reader) (lo : Nat) : Parse Item := do
  let start ← here
  let _ ← eatName "async"
  let (name, f) ← functionAfterKeyword g false
  let node ← otherSince start (name.toList ++ f.parts)
  return .exportDefaultDecl (← since lo) (.function (name.bind Node.name?) node)

def exportDefault (g : Reader) (lo : Nat) (ds : List Node) : Parse Item := do
  if (← typed) && (← isName "abstract") && (← peekName "class") && (← peekSameLine) then
    advance
    defaultClass g lo ds
  else if (← typed) && (← isName "interface") then
    let start ← here
    let node ← interfaceDeclaration g start
    return .exportDefaultDecl (← since lo) (.interface node)
  else if ← isPunct "@" then
    let more ← decorators g
    defaultClass g lo (ds ++ more)
  else if ← isName "class" then defaultClass g lo ds
  else if (← isName "function") || (← asyncFunctionAhead) then defaultFunction g lo
  else
    let e ← g.inner
    expectStatementEnd
    return .exportDefaultExpr (← since lo) e

def exportedDeclaration (g : Reader) (ds : List Node) : Parse (Option Node) := do
  let start ← here
  if ← isName "class" then return some (← classAfterDecorators g start ds true)
  else if (← isName "function") || (← asyncFunctionAhead) then
    return some (← functionDeclaration g)
  else
    let found ← if ← typed then typedDeclaration g start ds else pure none
    match found with
    | some d => return some d
    | none =>
      if (← isName "var") || (← isName "const") || (← letAhead) then
        return some (← variableStatement g)
      else if (← typed) && (← isName "declare") then declareStatement g start ds
      else return none

def exportItem (g : Reader) (ds : List Node) : Parse Item := do
  let lo ← here
  expectName "export"
  let more ← decorators g
  let ds := ds ++ more
  if (← typed) && (← isName "import") then
    advance
    let typeOnly ← importTypeAhead
    if typeOnly then advance
    importEquals lo
  else if ← eatPunctIf (← typed) "=" then
    let e ← g.enclosed
    expectStatementEnd
    return .exportAssign (← since lo) e
  else if (← typed) && (← isName "as") && (← peekName "namespace") then
    advance
    advance
    let name ← anyName
    expectStatementEnd
    return .other (← since lo) [name]
  else if ← eatName "default" then exportDefault g lo ds
  else
    match ← exportedDeclaration g ds with
    | some d => return .exportDecl (← since lo) d
    | none =>
      let typeOnly ← if ← typed then eatName "type" else pure false
      if ← isPunct "*" then exportStar g lo typeOnly else exportList g lo typeOnly

def moduleItem (g : Reader) : Parse Item := do
  let lo ← here
  let ds ← decorators g
  if (← isName "import") && !(← peekPunct "(") && !(← peekPunct ".") then importItem g
  else if ← isName "export" then
    if !ds.isEmpty && !(← typed) then fail
    exportItem g ds
  else return .statement (← statementAfter g lo ds true)

end RouteAtlas.Script
