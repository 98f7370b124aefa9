import RouteAtlas.Script.Node
import RouteAtlas.Script.Token

set_option autoImplicit false

/-!
# Reading a script token by token

A cursor stands on one token of a text and knows what follows it. Readers move the cursor or
fail; a failure keeps the place where it happened, because some phrases go on after an error in
one of their parts.
-/
namespace RouteAtlas.Script

structure Dialect where
  typed : Bool
  markup : Bool
  deriving DecidableEq, Repr, Inhabited

structure Context where
  allowIn : Bool := true
  inGenerator : Bool := false
  /-- Whether the phrase stands between the question mark and the colon of a conditional. -/
  beforeColon : Bool := false
  /-- Whether the type stands where a conditional type is asked about, and is none itself. -/
  afterExtends : Bool := false
  /-- Whether the declarations around are only announced. -/
  ambient : Bool := false
  deriving Inhabited

structure Cursor where
  token : Token
  lo : Nat
  hi : Nat
  newline : Bool
  rest : List Char
  /-- Where the last token ended, and the text from there on. -/
  last : Nat
  tail : List Char
  dialect : Dialect
  context : Context
  arrowStart : Option Nat
  /-- The length of the whole text, which bounds every loop. -/
  size : Nat
  deriving Inhabited

abbrev Parse := EStateM Unit Cursor

namespace Parse

variable {α : Type}

def fail : Parse α := fun c => .error () c

/-- Runs a reader; when it fails the cursor stays where it was. -/
def attempt (p : Parse α) : Parse (Option α) := fun c =>
  match p c with
  | .ok a c' => .ok (some a) c'
  | .error _ _ => .ok none c

def ahead (p : Parse α) : Parse Bool := fun c =>
  match p c with
  | .ok _ _ => .ok true c
  | .error _ _ => .ok false c

/-- Runs a reader; when it fails the cursor stays where the failure happened. -/
def recover (p : Parse α) : Parse (Option α) := fun c =>
  match p c with
  | .ok a c' => .ok (some a) c'
  | .error _ c' => .ok none { c' with context := c.context }

def conclusive (p : Parse α) : Parse α := fun c =>
  match p c with
  | .ok a c' => .ok a c'
  | .error e c' => .error e { c' with token := .eof, rest := [] }

def within (change : Context → Context) (p : Parse α) : Parse α := fun c =>
  match p { c with context := change c.context } with
  | .ok a c' => .ok a { c' with context := c.context }
  | .error e c' => .error e { c' with context := c.context }

def typed : Parse Bool := do return (← get).dialect.typed

def markup : Parse Bool := do return (← get).dialect.markup

/-- Sets the cursor on the first token of the text `tail`, which begins at `last`. -/
def settle (c : Cursor) (last : Nat) (tail : List Char) : Cursor :=
  match Token.skipGap .between last false tail with
  | none => { c with token := .bad, lo := last, hi := last, newline := false, rest := [],
                     last := last, tail := tail }
  | some (text, lo, newline) =>
    let (token, rest, length) := Token.scan text
    { c with token := token, lo := lo, hi := lo + length, newline := newline, rest := rest,
             last := last, tail := tail }

def start (dialect : Dialect) (text : List Char) : Cursor :=
  let blank : Cursor := { (default : Cursor) with dialect := dialect, size := text.length + 1 }
  settle blank 0 text

def advance : Parse Unit := modify fun c => settle c c.hi c.rest

def token : Parse Token := do return (← get).token

def newline : Parse Bool := do return (← get).newline

def here : Parse Nat := do return (← get).lo

def since (lo : Nat) : Parse Span := do return ⟨lo, (← get).last⟩

def isPunct (p : String) : Parse Bool := do return (← get).token == .punct p

def isName (s : String) : Parse Bool := do
  match (← get).token with
  | .name t escaped => return t == s && !escaped
  | _ => return false

def isAnyName : Parse Bool := do
  match (← get).token with
  | .name _ _ => return true
  | _ => return false

def isString : Parse Bool := do
  match (← get).token with
  | .str _ => return true
  | _ => return false

def eatPunct (p : String) : Parse Bool := do
  if ← isPunct p then advance; return true else return false

def eatName (s : String) : Parse Bool := do
  if ← isName s then advance; return true else return false

def eatPunctIf (allowed : Bool) (p : String) : Parse Bool :=
  if allowed then eatPunct p else pure false

def eatNameIf (allowed : Bool) (s : String) : Parse Bool :=
  if allowed then eatName s else pure false

def eatOneOf (ps : List String) : Parse Bool := do
  match (← get).token with
  | .punct p => eatPunctIf (ps.contains p) p
  | _ => return false

def expectPunct (p : String) : Parse Unit := do
  if !(← eatPunct p) then fail

def expectName (s : String) : Parse Unit := do
  if !(← eatName s) then fail

def peek (p : Parse α) : Parse α := fun c =>
  match p (settle c c.hi c.rest) with
  | .ok a _ => .ok a c
  | .error e _ => .error e c

def peekPunct (p : String) : Parse Bool := peek (isPunct p)

def peekName (s : String) : Parse Bool := peek (isName s)

def peekSameLine : Parse Bool := do return !(← peek newline)

def atStatementEnd : Parse Bool := do
  let c ← get
  return c.token == .punct ";" || c.token == .punct "\x7d" || c.token == .eof || c.newline

def eatStatementEnd : Parse Bool := do
  if ← eatPunct ";" then return true else atStatementEnd

def expectStatementEnd : Parse Unit := do
  if !(← eatStatementEnd) then fail

def many (item : Parse (Option α)) : Parse (List α) := do
  let size := (← get).size
  go size []
where
  go : Nat → List α → Parse (List α)
    | 0, _ => fail
    | n + 1, acc => do
      match ← item with
      | some a => go n (a :: acc)
      | none => return acc.reverse

def iterate (first : α) (step : α → Parse (Option α)) : Parse α := do
  let size := (← get).size
  go size first
where
  go : Nat → α → Parse α
    | 0, _ => fail
    | n + 1, a => do
      match ← step a with
      | some b => go n b
      | none => return a

def listUntil (close : String) (item : Parse α) : Parse (List α) := do
  let items ← many do
    if ← isPunct close then return none
    else
      let a ← item
      if ← isPunct close then return some a
      else
        expectPunct ","
        return some a
  expectPunct close
  return items

def anyName : Parse Node := do
  match ← token with
  | .name text _ =>
    let lo ← here
    advance
    return .ident (← since lo) text
  | _ => fail

end Parse

def reservedWords : List String :=
  ["break", "case", "catch", "class", "const", "continue", "debugger", "default", "delete", "do",
    "else", "enum", "export", "extends", "false", "finally", "for", "function", "if", "import",
    "in", "instanceof", "new", "null", "return", "super", "switch", "this", "throw", "true", "try",
    "typeof", "var", "void", "while", "with"]

namespace Parse

def isReference : Parse Bool := do
  match ← token with
  | .name text _ =>
    return !(reservedWords.contains text || text == "await" || text == "yield")
  | _ => return false

def bindingName : Parse Node := do
  match ← token with
  | .name text _ =>
    if reservedWords.contains text && !(text == "this" && (← typed)) then fail else anyName
  | _ => fail

def jump (pos : Nat) (text : List Char) : Parse Unit := modify fun c => settle c pos text

def expectLess : Parse Unit := do
  let c ← get
  if c.token == .punct "<" then advance
  else if c.token == .punct "<<" then jump (c.lo + 1) ('<' :: c.rest)
  else fail

def isLess : Parse Bool := do
  let c ← get
  return c.token == .punct "<" || c.token == .punct "<<"

end Parse

end RouteAtlas.Script
