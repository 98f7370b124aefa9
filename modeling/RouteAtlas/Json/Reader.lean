import RouteAtlas.Json.Value
import RouteAtlas.Text.Decimal
import RouteAtlas.Text.Read

set_option autoImplicit false

/-!
# Reading JSON

A document is read against a shape that says which parts are wanted. A wanted part may nest
127 levels deep, its numbers must fit a double and its strings must be well formed. Parts that
no field asks for are only checked for their grammar and may nest at will.
-/
namespace RouteAtlas.Json

open Text (Read)

inductive Shape where
  | any
  | skip
  | record (fields : List (String × Shape))

def nestingLimit : Nat := 128

namespace Reader

def isSpace (c : Char) : Bool := c = ' ' || c = '\n' || c = '\t' || c = '\r'

def space : Read Unit := Read.skipWhile isSpace

def hexEscape : Read Nat := do
  let ds ← (List.replicate 4 ()).mapM fun _ => do
    let c ← Read.next
    match Text.hexValue? c with
    | some _ => pure c
    | none => Read.fail
  pure (Text.digitsValue 16 ds)

/-- The second half of a surrogate pair. A lone half stands for no character: it is refused in
a wanted string and replaced in a skipped one. -/
def lowSurrogate (wanted : Bool) (high : Nat) : Read Char := do
  if wanted then
    Read.char '\\'
    Read.char 'u'
    let low ← hexEscape
    if 0xDC00 ≤ low && low ≤ 0xDFFF then
      pure (Char.ofNat (0x10000 + (high - 0xD800) * 0x400 + (low - 0xDC00)))
    else Read.fail
  else pure '\uFFFD'

def escape (wanted : Bool) : Read Char := do
  match ← Read.next with
  | '"' => pure '"'
  | '\\' => pure '\\'
  | '/' => pure '/'
  | 'b' => pure (Char.ofNat 8)
  | 'f' => pure (Char.ofNat 12)
  | 'n' => pure '\n'
  | 'r' => pure '\r'
  | 't' => pure '\t'
  | 'u' =>
    let n ← hexEscape
    if 0xD800 ≤ n && n ≤ 0xDBFF then lowSurrogate wanted n
    else
      match Text.scalar? n with
      | some c => pure c
      | none => if wanted then Read.fail else pure '\uFFFD'
  | _ => Read.fail

def stringTail (wanted : Bool) : Nat → Read (List Char)
  | 0 => Read.fail
  | n + 1 => do
    let c ← Read.next
    if c = '"' then pure []
    else if c = '\\' then do
      let e ← escape wanted
      let rest ← stringTail wanted n
      pure (e :: rest)
    else if c.toNat < 0x20 then Read.fail
    else do
      let rest ← stringTail wanted n
      pure (c :: rest)

def string (wanted : Bool) : Read String := fun s =>
  (do Read.char '"'; let cs ← stringTail wanted s.length; pure (String.ofList cs)).run s

def digits1 : Read (List Char) := do
  let ds ← Read.takeWhile Char.isDigit
  if ds.isEmpty then Read.fail else pure ds

def integerPart : Read (List Char) := do
  let ds ← digits1
  if ds.length > 1 && ds.head? == some '0' then Read.fail else pure ds

def number (wanted : Bool) : Read String := do
  let negative ← Read.eat '-'
  let whole ← integerPart
  let fraction ← if ← Read.eat '.' then digits1 else pure []
  let mark ← Read.peek?
  let (sign, exponent) ←
    if mark == some 'e' || mark == some 'E' then do
      let _ ← Read.next
      let minus ← Read.eat '-'
      if !minus then let _ ← Read.eat '+'
      let ds ← digits1
      pure (minus, ds)
    else pure (false, [])
  let power : Nat := Text.digitsValue 10 exponent
  let shift : Int := (if sign then -(power : Int) else power) - fraction.length
  let value := Text.Double.ofDecimal (Text.digitsValue 10 (whole ++ fraction)) shift
  if wanted && value = .infinite then Read.fail
  else
    let point := if fraction.isEmpty then [] else '.' :: fraction
    let tail :=
      if exponent.isEmpty then [] else 'e' :: ((if sign then ['-'] else []) ++ exponent)
    pure (String.ofList ((if negative then ['-'] else []) ++ whole ++ point ++ tail))

def Shape.isWanted : Shape → Bool
  | .skip => false
  | _ => true

def Shape.field : Shape → String → Shape
  | .record fields, name => ((fields.find? (·.1 == name)).map (·.2)).getD .skip
  | shape, _ => shape

/-- The shape of an item by its position: a record may be written as the list of its fields. -/
def Shape.item : Shape → Nat → Shape
  | .record fields, i => (fields[i]?.map (·.2)).getD .skip
  | shape, _ => shape

mutual
/-- Reads a value, with `depth` levels left for wanted parts. The first argument bounds the
number of nested calls. -/
def value : Nat → Shape → Nat → Read Json
  | 0, _, _ => Read.fail
  | n + 1, shape, depth => do
    space
    let wanted := Shape.isWanted shape
    match ← Read.peek? with
    | some '"' => do
      let s ← string wanted
      pure (.string s)
    | some 'n' => do Read.text "null".toList; pure .null
    | some 't' => do Read.text "true".toList; pure (.bool true)
    | some 'f' => do Read.text "false".toList; pure (.bool false)
    | some '[' => do
      let _ ← Read.next
      if wanted && depth ≤ 1 then Read.fail
      space
      if ← Read.eat ']' then pure (.array [])
      else do
        let items ← items n shape (depth - 1) 0
        pure (.array items)
    | some '\x7b' => do
      let _ ← Read.next
      if wanted && depth ≤ 1 then Read.fail
      space
      if ← Read.eat '\x7d' then pure (.object [])
      else do
        let members ← members n shape (depth - 1)
        pure (.object members)
    | _ => do
      let literal ← number wanted
      pure (.number literal)

def items : Nat → Shape → Nat → Nat → Read (List Json)
  | 0, _, _, _ => Read.fail
  | n + 1, shape, depth, i => do
    let v ← value n (Shape.item shape i) depth
    space
    if ← Read.eat ',' then do
      let rest ← items n shape depth (i + 1)
      pure (v :: rest)
    else do
      Read.char ']'
      pure [v]

def members : Nat → Shape → Nat → Read (List (String × Json))
  | 0, _, _ => Read.fail
  | n + 1, shape, depth => do
    space
    let name ← string true
    space
    Read.char ':'
    let v ← value n (Shape.field shape name) depth
    space
    if ← Read.eat ',' then do
      let rest ← members n shape depth
      pure ((name, v) :: rest)
    else do
      Read.char '\x7d'
      pure [(name, v)]
end

end Reader

/-- Reads a whole document. Every nested call takes a character, so twice the length of the
text bounds their number. -/
def read? (shape : Shape) (text : List Char) : Option Json :=
  let document : Read Json := do
    let v ← Reader.value (2 * text.length + 2) shape nestingLimit
    Reader.space
    pure v
  Read.whole? document text

def recordFields? (names : List String) : Json → Option (List (Option Json))
  | .object members =>
    names.mapM fun name =>
      match members.filter (·.1 == name) with
      | [] => some none
      | [m] => some (some m.2)
      | _ => none
  | .array items =>
    if items.length ≤ names.length then
      some ((List.range names.length).map fun i => items[i]?)
    else none
  | _ => none

end RouteAtlas.Json
