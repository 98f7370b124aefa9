import RouteAtlas.Script.Grammar.ModuleItem

set_option autoImplicit false

/-!
# Parsing a source file

The recursion of the grammar is tied here: a reader for phrases of depth `n + 1` is built from
the reader for phrases of depth `n`. Every level of nesting takes at least one character and a
bounded number of steps, so a multiple of the length of the text is depth enough.
-/
namespace RouteAtlas.Script

open Parse

/-- One layer of the grammar over the readers of nested phrases. -/
def layer (g : Reader) : Goal → Parse Phrase
  | .assignment => assignment g
  | .expression => expression g
  | .unary => unary g
  | .operand least => operand g least
  | .callee => callee g
  | .newTarget => newTarget g
  | .decorator => decoratorPhrase g
  | .element => element g
  | .type => typeExpression g
  | .plainType => plainType g
  | .pattern => pattern g
  | .block => block g
  | .statement => statementOf g false
  | .listItem => statementOf g true
  | .item => do return ⟨(← moduleItem g).toNode, .plain⟩

def reader : Nat → Reader
  | 0, _ => fail
  | n + 1, goal => layer (reader n) goal

def moduleItems (g : Reader) : Parse (List Item) :=
  many do
    if (← token) == .eof then return none else return some (← moduleItem g)

def skipPreamble (text : List Char) : Nat × List Char :=
  let (skipped, text) := match text with
    | c :: cs => if c.toNat = 0xFEFF then (1, cs) else (0, text)
    | [] => (0, [])
  match text with
  | '#' :: '!' :: cs =>
    let line := cs.takeWhile fun c => !Token.isLineEnd c
    (skipped + 2 + line.length, cs.drop line.length)
  | text => (skipped, text)

/-- The offsets at which lines begin. A line ends at a line feed, a carriage return, or both
together. -/
def lineStartsFrom : Nat → List Char → List Nat
  | _, [] => []
  | pos, '\r' :: '\n' :: cs => (pos + 2) :: lineStartsFrom (pos + 2) cs
  | pos, c :: cs =>
    if c = '\n' || c = '\r' then (pos + 1) :: lineStartsFrom (pos + 1) cs
    else lineStartsFrom (pos + 1) cs

def parseModule? (dialect : Dialect) (source : String) : Option Module :=
  let text := source.toList
  let (skipped, body) := skipPreamble text
  let depth := 16 * text.length + 64
  match moduleItems (reader depth) (settle (start dialect text) skipped body) with
  | .ok items _ => some ⟨items, 0 :: lineStartsFrom 0 text⟩
  | .error _ _ => none

def Dialect.ofExtension : Option String → Dialect
  | some "ts" | some "mts" | some "cts" => ⟨true, false⟩
  | some "tsx" => ⟨true, true⟩
  | _ => ⟨false, true⟩

end RouteAtlas.Script
