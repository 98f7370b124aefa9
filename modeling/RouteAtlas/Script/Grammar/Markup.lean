import RouteAtlas.Script.Grammar.Types

set_option autoImplicit false

namespace RouteAtlas.Script

open Parse

def tagWord : Parse (Node × String) := do
  let c ← get
  match c.token with
  | .name text _ =>
    let more := c.rest.takeWhile fun ch => Token.isNamePart ch || ch = '-'
    let word := text ++ String.ofList more
    jump (c.hi + more.length) (c.rest.drop more.length)
    return (.ident (← since c.lo) word, word)
  | _ => fail

/-- A tag name with a namespace or properties, and the text by which tags are matched. -/
def tagName : Parse (Node × String) := do
  let lo ← here
  let (first, text) ← tagWord
  if ← eatPunct ":" then
    let (second, more) ← tagWord
    return (← otherSince lo [first, second], text ++ ":" ++ more)
  else
    iterate (first, text) fun (base, text) => do
      if ← eatPunct "." then
        let (property, more) ← tagWord
        return some (← otherSince lo [base, property], text ++ "." ++ more)
      else return none

/-- The string after the equals sign of an attribute: it has no escapes and may span lines. -/
def attributeString : Parse Bool := do
  let c ← get
  match Token.skipGap .between c.last false c.tail with
  | some (quote :: text, lo, _) =>
    if quote = '"' || quote = '\'' then
      let inner := text.takeWhile (· != quote)
      match text.drop inner.length with
      | _ :: rest =>
        jump (lo + inner.length + 2) rest
        return true
      | [] => fail
    else return false
  | _ => return false

def braced (g : Reader) : Parse (List Node) := do
  expectPunct "\x7b"
  if ← isPunct "\x7d" then return []
  else if ← eatPunct "..." then return [← g.enclosed]
  else return [← g.enclosed]

def attributeValue (g : Reader) : Parse (List Node) := do
  if ← attributeString then return []
  else if ← isPunct "\x7b" then
    let e ← braced g
    expectPunct "\x7d"
    return e
  else if ← isPunct "<" then
    let e ← g.node .element
    advance
    return [e]
  else fail

def tagAttribute (g : Reader) : Parse Node := do
  let lo ← here
  if ← eatPunct "\x7b" then
    expectPunct "..."
    let e ← g.inner
    expectPunct "\x7d"
    otherSince lo [e]
  else
    let (name, _) ← tagWord
    let extra ←
      if ← eatPunct ":" then
        let (second, _) ← tagWord
        pure [second]
      else pure []
    let c ← get
    let value ←
      if c.token == .punct "=" then
        jump c.hi c.rest
        attributeValue g
      else pure []
    otherSince lo (name :: (extra ++ value))

def closingAhead : Parse Bool := do
  return (← isPunct "<") && (← peekPunct "/")

def elementContent (g : Reader) : Nat → Nat → List Char → Parse (List Node)
  | 0, _, _ => fail
  | n + 1, pos, text => do
    let plain := text.takeWhile fun c => c != '\x7b' && c != '<'
    let rest := text.drop plain.length
    if rest.isEmpty then fail
    jump (pos + plain.length) rest
    if ← isPunct "\x7b" then
      let e ← braced g
      let c ← get
      if c.token != .punct "\x7d" then fail
      let more ← elementContent g n c.hi c.rest
      return e ++ more
    else if ← closingAhead then return []
    else
      let e ← g.node .element
      let c ← get
      let more ← elementContent g n c.hi c.rest
      return e :: more

def elementRest (g : Reader) (name : String) : Parse (List Node) := do
  let c ← get
  if c.token != .punct ">" then fail
  let children ← elementContent g c.size c.hi c.rest
  expectPunct "<"
  expectPunct "/"
  if name.isEmpty then
    if !(← isPunct ">") then fail
    return children
  else
    let (closing, text) ← tagName
    if text != name || !(← isPunct ">") then fail
    return children ++ [closing]

def element (g : Reader) : Parse Phrase := do
  let lo ← here
  expectPunct "<"
  let parts ←
    if ← isPunct ">" then elementRest g ""
    else
      let (tag, text) ← tagName
      let types ← if (← typed) && (← isPunct "<") then typeArguments g else pure []
      let attributes ← many do
        if (← isPunct ">") || (← isPunct "/") then return none else return some (← tagAttribute g)
      if ← eatPunct "/" then
        if !(← isPunct ">") then fail
        pure (tag :: (attributes ++ types))
      else
        let rest ← elementRest g text
        pure (tag :: (attributes ++ types ++ rest))
  let c ← get
  return ⟨.other ⟨lo, c.hi⟩ parts, .plain⟩

end RouteAtlas.Script
