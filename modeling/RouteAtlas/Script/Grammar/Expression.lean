import RouteAtlas.Script.Grammar.ClassBody
import RouteAtlas.Script.Grammar.Markup

set_option autoImplicit false

/-!
# Expressions

From literals to assignments. Where parentheses may turn out to hold the parameters of an arrow
function they are read once, as expressions or as typed parameters, and read again as patterns
when the arrow is seen. Two errors do not end an expression: a missing operand after a unary
operator, and a missing first operand before a binary one.
-/
namespace RouteAtlas.Script

open Parse

/-! ## Operators -/

/-- The operator under the cursor and how many characters it takes beyond the present token.
Closing angle brackets are separate tokens, so that they can close types. -/
def operator : Parse (Option (String × Nat)) := do
  let c ← get
  match c.token with
  | .punct ">" =>
    match c.rest with
    | '>' :: '>' :: '=' :: _ => return some (">>>=", 3)
    | '>' :: '>' :: _ => return some (">>>", 2)
    | '>' :: '=' :: _ => return some (">>=", 2)
    | '>' :: _ => return some (">>", 1)
    | '=' :: _ => return some (">=", 1)
    | _ => return some (">", 0)
  | .punct p => return some (p, 0)
  | .name text escaped => if escaped then return none else return some (text, 0)
  | _ => return none

def takeOperator (extra : Nat) : Parse Unit := do
  let c ← get
  jump (c.hi + extra) (c.rest.drop extra)

def assignmentOperators : List String :=
  ["=", "+=", "-=", "*=", "/=", "%=", "**=", "<<=", ">>=", ">>>=", "&=", "|=", "^=", "&&=", "||=",
    "??="]

def strength : String → Option Nat
  | "||" | "??" => some 1
  | "&&" => some 2
  | "|" => some 3
  | "^" => some 4
  | "&" => some 5
  | "==" | "!=" | "===" | "!==" => some 6
  | "<" | ">" | "<=" | ">=" | "in" | "instanceof" => some 7
  | "<<" | ">>" | ">>>" => some 8
  | "+" | "-" => some 9
  | "*" | "/" | "%" => some 10
  | "**" => some 11
  | _ => none

def isComparison (op : String) : Bool := ["==", "!=", "===", "!=="].contains op

def binaryOperator : Parse (Option (String × Nat × Nat)) := do
  match ← operator with
  | some (op, extra) =>
    match strength op with
    | some s => if op == "in" && !(← get).context.allowIn then return none else return some (op, extra, s)
    | none => return none
  | none => return none

/-! ## Literals -/

def template (g : Reader) : Parse Node := do
  let lo ← here
  let (pieces, parts) ← templatePieces g.enclosed
  let texts := pieces.mapM fun p => p.cooked.map String.ofList
  match texts with
  | some texts => return .template (← since lo) texts parts
  | none => fail

def taggedTemplate (g : Reader) (lo : Nat) (tag : Node) (types : List Node) : Parse Node := do
  let (_, parts) ← templatePieces g.enclosed
  otherSince lo (tag :: (types ++ parts))

def arrayLiteral (g : Reader) : Parse Node := do
  let lo ← here
  expectPunct "["
  let elements ← within (fun c => { c with allowIn := true, beforeColon := false }) do
    many do
      if ← isPunct "]" then return none
      else
        let start ← here
        if ← eatPunct "," then return some (Node.hole ⟨start, start⟩)
        else
          let e ← argument g
          if !(← isPunct "]") then expectPunct ","
          return some e
  expectPunct "]"
  return .array (← since lo) elements

def propertyTail (g : Reader) (lo : Nat) (key : Node) : Parse Node := do
  match key with
  | .ident s name =>
    let _ ← eatPunct "?"
    if ← eatPunct "=" then
      let value ← g.inner
      otherSince lo [key, value]
    else if (← isPunct ",") || (← isPunct "\x7d") then return .shorthand s name
    else if ["get", "set", "async"].contains name then
      let generator ← if name == "async" then eatPunct "*" else pure false
      let key ← propertyName g
      methodTail g lo [] key generator
    else fail
  | _ =>
    if (← typed) && (← isPunct "\x7d") then
      let place ← here
      return .keyValue (← since lo) key (.other ⟨place, place⟩ [])
    else fail

def objectProperty (g : Reader) : Parse Node := do
  let lo ← here
  if ← eatPunct "..." then
    let e ← g.inner
    return .spread (← since lo) e
  else if ← eatPunct "*" then
    let key ← propertyName g
    methodTail g lo [] key true
  else
    skipModifier
    let key ← propertyName g
    if ← eatPunct ":" then
      let value ← g.inner
      return .keyValue (← since lo) key value
    else if ← isMethodStart then methodTail g lo [] key false
    else propertyTail g lo key

def objectLiteral (g : Reader) : Parse Node := do
  let lo ← here
  expectPunct "\x7b"
  let properties ← within (fun c => { c with allowIn := true, beforeColon := false })
    (listUntil "\x7d" (objectProperty g))
  return .object (← since lo) properties

def regexLiteral : Parse Node := do
  let c ← get
  let text := if c.token == .punct "/=" then '=' :: c.rest else c.rest
  match Token.regexTail false 1 text with
  | some (rest, length) =>
    jump (c.lo + length) rest
    otherSince c.lo []
  | none => fail

/-! ## Arrow functions -/

def arrowBody (g : Reader) : Parse Node := do
  if ← isPunct "\x7b" then functionBlock g false
  else within (fun c => { c with inGenerator := false }) (g.node .assignment)

def arrowFunction (g : Reader) (lo : Nat) (params types : List Node) : Parse Phrase := do
  let body ← arrowBody g
  return ⟨← otherSince lo (params ++ body :: types), .arrow⟩

def genericAsyncArrow (g : Reader) (lo : Nat) : Parse Phrase := do
  let types ← typeParameters g
  let params ← formalParameters g
  let result ← returnType g
  expectPunct "=>"
  arrowFunction g lo params (types ++ result)

structure CoverItem where
  node : Node
  isPattern : Bool
  isSpread : Bool

def assignmentTail (g : Reader) (lo : Nat) (left : Phrase) : Parse Phrase := do
  match ← operator with
  | some (op, extra) =>
    if assignmentOperators.contains op then
      let target ← if op == "=" then asTarget left.node else pure left.node
      takeOperator extra
      let right ← g.assignment
      return ⟨← otherSince lo [target, right], .plain⟩
    else return left
  | none => return left

def coverPattern (g : Reader) (lo : Nat) (spread : Bool) (e : Node) : Parse CoverItem := do
  let target ← asPattern true e
  let types ← typeAnnotation g
  let value ← if ← eatPunct "=" then pure [← g.assignment] else pure []
  return ⟨← otherSince lo (target :: (types ++ value)), true, spread⟩

def coverConditional (g : Reader) (lo : Nat) (test : Node) : Parse Node := do
  expectPunct "?"
  let yes ← within (fun c => { c with allowIn := true, beforeColon := true }) (g.node .assignment)
  expectPunct ":"
  let no ← within (fun c => { c with beforeColon := false }) (g.node .assignment)
  otherSince lo [test, yes, no]

def coverExpression (g : Reader) (lo : Nat) (spread : Bool) : Parse Phrase := do
  if (← typed) && (← isReference) then
    modify fun c => { c with arrowStart := some c.lo }
    let e ← g (.operand 0)
    if spread || e.form == .arrow then return e
    else if e.form == .compound then return e
    else assignmentTail g lo e
  else g .assignment

def coverItem (g : Reader) : Parse CoverItem := do
  let lo ← here
  skipModifier
  let spread ← eatPunct "..."
  let start ← here
  let e ← coverExpression g start spread
  if ← typed then
    let optional ←
      if ← isPunct "?" then
        pure ((← peekPunct ",") || (← peekPunct ":") || (← peekPunct ")") || (← peekPunct "="))
      else pure false
    if optional then
      advance
      coverPattern g lo spread e.node
    else if (← isPunct "?") && !spread && e.form != .arrow then
      let e ← coverConditional g start e.node
      return ⟨e, false, false⟩
    else if (← isPunct ":") && e.form != .arrow then coverPattern g lo spread e.node
    else return ⟨e.node, false, spread⟩
  else return ⟨e.node, false, spread⟩

def coverItems (g : Reader) : Parse (List CoverItem × Bool) := do
  expectPunct "("
  let items ← within (fun c => { c with allowIn := true, beforeColon := false }) do
    many do
      if ← isPunct ")" then return none
      else
        let item ← coverItem g
        if ← isPunct ")" then return some (item, false)
        else
          expectPunct ","
          return some (item, true)
  expectPunct ")"
  return (items.map (·.1), (items.getLast?.map (·.2)).getD false)

def coverParameters (items : List CoverItem) : Parse (List Node) :=
  items.mapM fun item => do
    if item.isPattern then return item.node else asPattern true item.node

/-- An arrow function between the question mark and the colon of a conditional may name its
result type only if another colon follows it. -/
def arrowBeforeColon (g : Reader) (lo : Nat) (items : List CoverItem) : Parse Phrase := do
  let result ← returnType g
  expectPunct "=>"
  let params ← coverParameters items
  let f ← arrowFunction g lo params result
  if (← isPunct ":") || (← isPunct ";") then return f else fail

def parenthesized (lo : Nat) (asyncName : Option Node) (items : List CoverItem)
    (trailingComma : Bool) : Parse Phrase := do
  let s ← since lo
  match asyncName with
  | some callee =>
    let args := items.map fun i => if i.isSpread then Node.spread i.node.span i.node else i.node
    return ⟨.call s callee args [], .plain⟩
  | none =>
    if trailingComma || items.isEmpty || items.any (·.isSpread) then fail
    else
      match items with
      | [item] => return ⟨.wrap s item.node [], .plain⟩
      | items =>
        let nodes := items.map (·.node)
        return ⟨.wrap s (.other s nodes) [], .plain⟩

def parenOrArrow (g : Reader) (lo : Nat) (canArrow : Bool) (asyncName : Option Node) :
    Parse Phrase := do
  let (items, trailingComma) ← coverItems g
  let beforeColon := (← get).context.beforeColon
  let early ←
    if (← typed) && beforeColon && (← isPunct ":") then attempt (arrowBeforeColon g lo items)
    else pure none
  match early with
  | some f => return f
  | none =>
    let result ←
      if (← typed) && !beforeColon && (← isPunct ":") then
        attempt do
          let r ← returnType g
          if !(← isPunct "=>") then fail
          return r
      else pure none
    if items.any (·.isPattern) || result.isSome || (← isPunct "=>") then
      if (← newline) || !canArrow then fail
      expectPunct "=>"
      let params ← coverParameters items
      arrowFunction g lo params (result.getD [])
    else parenthesized lo asyncName items trailingComma

/-! ## Primary expressions -/

def nameOrArrow (g : Reader) (lo : Nat) (canArrow : Bool) : Parse Phrase := do
  let name ← anyName
  let isAsync := name.name? == some "async"
  if isAsync && canArrow && !(← newline) && (← isReference) then
    let param ← bindingName
    if ← newline then fail
    expectPunct "=>"
    arrowFunction g lo [param] []
  else if ← eatPunctIf (canArrow && !(← newline)) "=>" then arrowFunction g lo [name] []
  else return ⟨name, .plain⟩

def asyncPrimary (g : Reader) (lo : Nat) (canArrow : Bool) : Parse Phrase := do
  if ← asyncFunctionAhead then return ⟨← functionExpression g, .plain⟩
  else if canArrow && (← typed) && (← peekPunct "<") then
    let arrow ← attempt do
      advance
      genericAsyncArrow g lo
    match arrow with
    | some f => return f
    | none => nameOrArrow g lo canArrow
  else if canArrow && (← peekPunct "(") then
    let name ← anyName
    parenOrArrow g lo canArrow (some name)
  else nameOrArrow g lo canArrow

def namedPrimary (g : Reader) (text : String) (escaped : Bool) : Parse Phrase := do
  let lo ← here
  let canArrow := (← get).arrowStart == some lo
  if escaped && reservedWords.contains text then fail
  else if text == "this" then
    advance
    return ⟨.thisRef (← since lo), .plain⟩
  else if text == "async" && !escaped then asyncPrimary g lo canArrow
  else if text == "function" then return ⟨← functionExpression g, .plain⟩
  else if text == "class" then return ⟨← classAfterDecorators g lo [] false, .plain⟩
  else if text == "true" || text == "false" then
    advance
    return ⟨.bool (← since lo) (text == "true"), .plain⟩
  else if text == "null" then
    advance
    return ⟨← otherSince lo [], .plain⟩
  else if ← isReference then nameOrArrow g lo canArrow
  else fail

def primary (g : Reader) : Parse Phrase := do
  let lo ← here
  match ← token with
  | .name text escaped => namedPrimary g text escaped
  | .str value =>
    advance
    return ⟨.str (← since lo) value, .plain⟩
  | .number text =>
    advance
    return ⟨.number (← since lo) text, .plain⟩
  | .bigint =>
    advance
    return ⟨← otherSince lo [], .plain⟩
  | .tick => return ⟨← template g, .plain⟩
  | .privateName text =>
    advance
    return ⟨.privateName (← since lo) text, .plain⟩
  | .punct "[" => return ⟨← arrayLiteral g, .plain⟩
  | .punct "\x7b" => return ⟨← objectLiteral g, .plain⟩
  | .punct "(" =>
    let canArrow := (← get).arrowStart == some lo
    parenOrArrow g lo canArrow none
  | .punct "/" => return ⟨← conclusive regexLiteral, .plain⟩
  | .punct "/=" => return ⟨← conclusive regexLiteral, .plain⟩
  | .punct "@" =>
    let ds ← decorators g
    return ⟨← classAfterDecorators g lo ds false, .plain⟩
  | _ => fail

/-! ## Members and calls -/

def startsExpression : Parse Bool := do
  match ← token with
  | .name text _ =>
    return !(reservedWords.contains text) || ["this", "super", "null", "true", "false",
      "function", "class", "new", "delete", "typeof", "void", "import"].contains text
  | .str _ => return true
  | .number _ => return true
  | .bigint => return true
  | .tick => return true
  | .privateName _ => return true
  | .punct p =>
    return ["(", "[", "\x7b", "/", "/=", "+", "-", "~", "!", "++", "--", "<", "@"].contains p
  | _ => return false

/-- Type arguments that are not followed by a call or a template: they stand only where no
operand follows them. -/
def bareTypeArguments (g : Reader) : Parse (Option (List Node)) := do
  if (← typed) && (← isLess) then
    attempt do
      let types ← typeArguments g
      if (← isPunct "<") || (← isPunct ">") || (← isPunct "+") || (← isPunct "-") ||
          (← isPunct "(") || (← token) == .tick then fail
      if !(← newline) && (← startsExpression) then fail
      return types
  else return none

def callTypeArguments (g : Reader) : Parse (Option (List Node)) := do
  if (← typed) && (← isLess) then
    attempt do
      let types ← typeArguments g
      if !(← isPunct "(") then fail
      return types
  else return none

/-- A call, which inside an optional chain is only a part of the chain. -/
def callNode (lo : Nat) (base : Phrase) (optional : Bool) (args types : List Node) :
    Parse Phrase := do
  let s ← since lo
  if optional || base.form == .chain then
    return ⟨.other s (base.node :: (args ++ types)), .chain⟩
  else return ⟨.call s base.node args types, .plain⟩

def memberNode (lo : Nat) (base : Phrase) (optional : Bool) (property : Node) : Parse Phrase := do
  let s ← since lo
  if optional || base.form == .chain then return ⟨.other s [base.node, property], .chain⟩
  else if base.form == .incomplete then return ⟨.other s [base.node, property], .plain⟩
  else return ⟨.member s base.node property, .plain⟩

structure Links where
  calls : Bool := true
  brackets : Bool := true

/-- A call or a template after type arguments, or the arrow function of `async <T>`. -/
def genericSubscript (g : Reader) (lo : Nat) (base : Phrase) (links : Links) : Parse Phrase := do
  let arrowHere := (← get).arrowStart == some lo
  let arrow ←
    if links.calls && arrowHere && base.node.name? == some "async" then
      attempt (genericAsyncArrow g lo)
    else pure none
  match arrow with
  | some f => return f
  | none =>
    let types ← typeArguments g
    if links.calls && (← isPunct "(") then
      let args ← arguments g
      callNode lo base false args types
    else if (← token) == .tick then
      let t ← taggedTemplate g lo base.node types
      return ⟨t, .plain⟩
    else fail

def propertyAfterDot : Parse Node := do
  match ← token with
  | .privateName text =>
    let lo ← here
    advance
    return .privateName (← since lo) text
  | _ => anyName

def plainSubscript (g : Reader) (lo : Nat) (base : Phrase) (links : Links) :
    Parse (Option Phrase) := do
  let optional ← eatPunct "?."
  if links.brackets && (← isPunct "[") then
    let start ← here
    advance
    let e ← g.enclosed
    expectPunct "]"
    let property := Node.computed (← since start) e
    return some (← memberNode lo base optional property)
  else if (← isPunct "(") && (optional || links.calls) then
    let args ← arguments g
    return some (← callNode lo base optional args [])
  else if optional then
    if (← token) == .tick then return some ⟨← taggedTemplate g lo base.node [], .chain⟩
    let property ← propertyAfterDot
    return some (← memberNode lo base true property)
  else if ← eatPunct "." then
    let property ← propertyAfterDot
    return some (← memberNode lo base false property)
  else if (← token) == .tick && base.form != .incomplete then
    return some ⟨← taggedTemplate g lo base.node [], .plain⟩
  else if base.form == .incomplete then fail
  else return none

def subscript (g : Reader) (lo : Nat) (links : Links) (base : Phrase) : Parse (Option Phrase) := do
  if base.form == .arrow then return none
  else if (← typed) && !(← newline) && (← isPunct "!") && base.form != .incomplete then
    advance
    let form := if base.form == .chain then Form.chain else Form.plain
    return some ⟨.wrap (← since lo) base.node [], form⟩
  else
    let generic ←
      if (← typed) && (← isLess) then attempt (genericSubscript g lo base links) else pure none
    match generic with
    | some e => return some e
    | none => plainSubscript g lo base links

def subscripts (g : Reader) (lo : Nat) (links : Links) (base : Phrase) : Parse Phrase :=
  iterate base (subscript g lo links)

def specialBase (g : Reader) (links : Links) : Parse Phrase := do
  let lo ← here
  let isImport ← isName "import"
  advance
  if ← eatPunctIf isImport "." then
    expectName "meta"
    let base ← otherSince lo []
    subscripts g lo links ⟨base, .plain⟩
  else
    let base ← otherSince lo []
    subscripts g lo links ⟨base, .incomplete⟩

def newExpression (g : Reader) : Parse Phrase := do
  let lo ← here
  expectName "new"
  if ← eatPunct "." then
    expectName "target"
    let base ← otherSince lo []
    subscripts g lo { calls := false } ⟨base, .plain⟩
  else
    let target ← g .newTarget
    if target.form == .arrow then return target
    else if target.form == .chain then fail
    else
      let types := (← callTypeArguments g).getD []
      if ← isPunct "(" then
        let args ← arguments g
        let e ← otherSince lo (target.node :: (args ++ types))
        subscripts g lo { calls := false } ⟨e, .plain⟩
      else return ⟨← otherSince lo [target.node], .bareNew⟩

def newTarget (g : Reader) : Parse Phrase := do
  if ← isName "new" then newExpression g
  else if (← isName "super") || (← isName "import") then specialBase g { calls := false }
  else
    let lo ← here
    let base ← primary g
    if base.form == .arrow then return base
    else
      match ← bareTypeArguments g with
      | some types =>
        let e ← otherSince lo (base.node :: types)
        subscripts g lo { calls := false } ⟨e, .plain⟩
      | none => subscripts g lo { calls := false } base

/-- What follows the sign of a decorator: a chain that begins with a name and has no brackets, or
an expression in parentheses, and then arguments. -/
def decoratorPhrase (g : Reader) : Parse Phrase := do
  let lo ← here
  if ← eatPunct "(" then
    let e ← g.enclosed
    expectPunct ")"
    return ⟨← decoratorArguments g lo e, .plain⟩
  else if (← isName "await") || (← isName "yield") then fail
  else
    let name ← bindingName
    let chain ← subscripts g lo { brackets := false } ⟨name, .plain⟩
    return ⟨← decoratorArguments g lo chain.node, .plain⟩

def callee (g : Reader) : Parse Phrase := do
  let lo ← here
  if (← markup) && (← isPunct "<") then
    let e ← conclusive (g .element)
    advance
    return e
  else if (← isName "super") || (← isName "import") then specialBase g {}
  else
    let base ← newTarget g
    if base.form == .arrow then return base
    else
      let types ← callTypeArguments g
      if base.form == .bareNew then
        if types.isSome then fail else return base
      else if ← isPunct "(" then
        let args ← arguments g
        let e ← callNode lo base false args (types.getD [])
        subscripts g lo {} e
      else return base

/-! ## Operators -/

def missingOperand : Parse Node := do
  let lo ← here
  return .other ⟨lo, lo⟩ []

def typeAssertion (g : Reader) : Parse Phrase := do
  let lo ← here
  expectPunct "<"
  let types ← if ← eatName "const" then pure [] else pure [← g.type]
  expectPunct ">"
  let e ← g.node .unary
  return ⟨.wrap (← since lo) e types, .plain⟩

def awaitExpression (g : Reader) : Parse Phrase := do
  let lo ← here
  let name ← anyName
  if ← isPunct "*" then fail
  else if (← isPunct ")") || (← isPunct "]") then return ⟨name, .plain⟩
  else
    let e ← g.node .unary
    return ⟨← otherSince lo [e], .plain⟩

def unaryWords : List String := ["delete", "void", "typeof"]

def unarySigns : List String := ["+", "-", "~", "!"]

def isUnaryOperator : Parse Bool := do
  match ← token with
  | .name text escaped => return unaryWords.contains text && !escaped
  | .punct p => return unarySigns.contains p
  | _ => return false

def isStepOperator : Parse Bool := do return (← isPunct "++") || (← isPunct "--")

def unary (g : Reader) : Parse Phrase := do
  let lo ← here
  if (← typed) && !(← markup) && (← isPunct "<") then typeAssertion g
  else if ← isStepOperator then
    advance
    let e ← g.node .unary
    return ⟨← otherSince lo [e], .compound⟩
  else if ← isUnaryOperator then
    advance
    let e ← match ← recover (g.node .unary) with
      | some e => pure e
      | none => missingOperand
    return ⟨← otherSince lo [e], .compound⟩
  else if ← isName "await" then awaitExpression g
  else
    let e ← callee g
    if e.form == .arrow || (← newline) then return e
    else if ← isStepOperator then
      advance
      return ⟨← otherSince lo [e.node], .compound⟩
    else return e

def assertedType (g : Reader) (lo : Nat) (left : Phrase) : Parse Phrase := do
  advance
  let types ← if ← eatName "const" then pure [] else pure [← g.type]
  return ⟨.wrap (← since lo) left.node types, .plain⟩

def binaryStep (g : Reader) (lo least : Nat) (left : Phrase) : Parse (Option Phrase) := do
  if left.form == .arrow then return none
  else if (← typed) && !(← newline) && least < 7 && ((← isName "as") || (← isName "satisfies")) then
    return some (← assertedType g lo left)
  else
    match ← binaryOperator with
    | some (op, extra, s) =>
      if s ≤ least then return none
      else
        takeOperator extra
        let right ← g.node (.operand (if op == "**" then s - 1 else s))
        let span ← since lo
        if isComparison op then return some ⟨.comparison span left.node right, .compound⟩
        else return some ⟨.other span [left.node, right], .compound⟩
    | none => return none

def operand (g : Reader) (least : Nat) : Parse Phrase := do
  let lo ← here
  let left ← unary g
  iterate left (binaryStep g lo least)

/-- An expression of binary operators. Its first operand may be missing before an operator. -/
def binary (g : Reader) : Parse Phrase := do
  let lo ← here
  let left ← match ← recover (unary g) with
    | some e => pure e
    | none =>
      match ← binaryOperator with
      | some _ => pure ⟨← missingOperand, .plain⟩
      | none => fail
  iterate left (binaryStep g lo 0)

def conditional (g : Reader) : Parse Phrase := do
  let lo ← here
  let test ← binary g
  if test.form == .arrow then return test
  else if ← eatPunct "?" then
    let yes ← within (fun c => { c with allowIn := true, beforeColon := true })
      (g.node .assignment)
    expectPunct ":"
    let no ← g.node .assignment
    return ⟨← otherSince lo [test.node, yes, no], .compound⟩
  else return test

def yieldExpression (g : Reader) : Parse Phrase := do
  let lo ← here
  expectName "yield"
  let starts ← startsExpression
  if !(← newline) && ((← isPunct "*") || starts) then
    let _ ← eatPunct "*"
    let e ← g.assignment
    return ⟨← otherSince lo [e], .plain⟩
  else return ⟨← otherSince lo [], .plain⟩

def assignmentBase (g : Reader) : Parse Phrase := do
  let lo ← here
  if (← get).context.inGenerator && (← isName "yield") then yieldExpression g
  else
    let mayArrow ← do pure ((← isPunct "(") || (← isReference))
    modify fun c => { c with arrowStart := if mayArrow then some c.lo else none }
    let e ← conditional g
    if e.form == .arrow || e.form == .compound then return e else assignmentTail g lo e

def genericArrow (g : Reader) : Parse Phrase := do
  let lo ← here
  let types ← typeParameters g
  if !(← isPunct "(") && !(← isAnyName) then fail
  let e ← within (fun c => { c with beforeColon := false }) (assignmentBase g)
  match e.form, e.node with
  | .arrow, .other s parts => return ⟨.other ⟨lo, s.hi⟩ (parts ++ types), .arrow⟩
  | _, _ => fail

def assignment (g : Reader) : Parse Phrase := do
  let generic ←
    if (← typed) && (← isPunct "<") && (← peek isAnyName) then attempt (genericArrow g)
    else pure none
  match generic with
  | some e => return e
  | none => assignmentBase g

def expression (g : Reader) : Parse Phrase := do
  let lo ← here
  let first ← g .assignment
  if ← isPunct "," then
    let rest ← many do
      if ← eatPunct "," then return some (← g.assignment) else return none
    return ⟨← otherSince lo (first.node :: rest), .compound⟩
  else return first

end RouteAtlas.Script
