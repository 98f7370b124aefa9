import RouteAtlas.Json.Value
import RouteAtlas.Text.Decimal
import RouteAtlas.Text.Read
import RouteAtlas.Toml.Basic

set_option autoImplicit false

namespace RouteAtlas.Toml

open Text (Read)

namespace Reader

def isBlank (c : Char) : Bool := c = ' ' || c = '\t'

def isBare (c : Char) : Bool := c.isAlphanum || c = '-' || c = '_'

def isText (c : Char) : Bool := c = '\t' || c.toNat ≥ 0x20

def blanks : Read Unit := Read.skipWhile isBlank

def lineEnd : Read Unit := do
  match ← Read.peek? with
  | none => pure ()
  | some _ => Read.char '\n'

def comment : Read Bool := do
  if ← Read.eat '#' then
    Read.skipWhile isText
    lineEnd
    pure true
  else pure false

def restOfLine : Read Unit := do
  blanks
  if !(← comment) then lineEnd

def bare : Read (List Char) := do
  let cs ← Read.takeWhile isBare
  if cs.isEmpty then Read.fail else pure cs

def hexEscape (n : Nat) : Read Char := do
  let ds ← (List.replicate n ()).mapM fun _ => do
    let c ← Read.next
    if (Text.hexValue? c).isSome then pure c else Read.fail
  match Text.scalar? (Text.digitsValue 16 ds) with
  | some c => pure c
  | none => Read.fail

/-- An escaped character after its backslash. In a string of several lines a backslash before
the end of a line joins it to the next text. -/
def escape (multiline : Bool) : Read (List Char) := do
  let c ← Read.next
  match c with
  | '"' => pure ['"']
  | '\\' => pure ['\\']
  | 'b' => pure [Char.ofNat 8]
  | 'f' => pure [Char.ofNat 12]
  | 'n' => pure ['\n']
  | 'r' => pure ['\r']
  | 't' => pure ['\t']
  | 'u' => do return [← hexEscape 4]
  | 'U' => do return [← hexEscape 8]
  | _ =>
    if multiline && (c = '\n' || isBlank c) then
      if c ≠ '\n' then
        blanks
        if (← Read.peek?).isSome then Read.char '\n'
      Read.skipWhile fun c => isBlank c || c = '\n'
      pure []
    else Read.fail

def stringTail (quote : Char) (multiline : Bool) : Nat → Read (List Char)
  | 0 => Read.fail
  | n + 1 => do
    let c ← Read.next
    if c = '\n' then
      if multiline then return c :: (← stringTail quote multiline n) else Read.fail
    else if c = quote then
      if !multiline then pure []
      else if !(← Read.eat quote) then return c :: (← stringTail quote multiline n)
      else if !(← Read.eat quote) then return c :: c :: (← stringTail quote multiline n)
      else if !(← Read.eat quote) then pure []
      else if !(← Read.eat quote) then pure [c]
      else pure [c, c]
    else if c = '\\' && quote = '"' then do
      let e ← escape multiline
      return e ++ (← stringTail quote multiline n)
    else if isText c && c.toNat ≠ 0x7F then return c :: (← stringTail quote multiline n)
    else Read.fail

def string (quote : Char) : Read (Bool × String) := fun s =>
  (show Read (Bool × String) from do
    Read.char quote
    if !(← Read.eat quote) then
      return (false, String.ofList (← stringTail quote false s.length))
    else if ← Read.eat quote then
      let _ ← Read.eat '\n'
      return (true, String.ofList (← stringTail quote true s.length))
    else return (false, "")) s

def key : Read String := do
  match ← Read.peek? with
  | some c =>
    if c = '"' || c = '\'' then
      let (multiline, s) ← string c
      if multiline then Read.fail else pure s
    else return String.ofList (← bare)
  | none => Read.fail

def moreKeys : Nat → Read (List String)
  | 0 => Read.fail
  | n + 1 => do
    blanks
    if ← Read.eat '.' then
      blanks
      let k ← key
      return k :: (← moreKeys n)
    else pure []

def dottedKey : Read (List String) := fun s =>
  (show Read (List String) from do
    let k ← key
    return k :: (← moreKeys s.length)) s

/-- The digits of a whole number, and what follows them: single underscores may stand between
digits, and a leading zero stands alone where `zeros` is off. -/
def splitDigits (base : Nat) (zeros : Bool) (cs : List Char) : Option (List Char × List Char) :=
  let ok (c : Char) : Bool := c = '_' || ((Text.hexValue? c).map fun d => decide (d < base)).getD false
  let rec upTo : Bool → List Char → List Char × List Char
    | _, [] => ([], [])
    | afterBar, c :: cs =>
      if ok c && !(c = '_' && afterBar) then
        let (ds, rest) := upTo (c = '_') cs
        (c :: ds, rest)
      else ([], c :: cs)
  let (body, rest) := upTo false cs
  let digits := body.filter (· ≠ '_')
  if body.isEmpty || body.head? = some '_' || body.getLast? = some '_' then none
  else if !zeros && digits.length > 1 && digits.head? = some '0' then none
  else some (digits, rest)

def splitSign (cs : List Char) : Bool × List Char :=
  match cs with
  | '-' :: cs => (true, cs)
  | '+' :: cs => (false, cs)
  | cs => (false, cs)

def number (negative : Bool) (digits : List Char) : Value :=
  .number (String.ofList ((if negative then ['-'] else []) ++ digits))

def integer (base : Nat) (cs : List Char) : Read Value :=
  let (negative, body) := if base = 10 then splitSign cs else (false, cs)
  match splitDigits base (base ≠ 10) body with
  | some (digits, []) =>
    if Text.digitsValue base digits < Nat.pow 2 63 + (if negative then 1 else 0) then
      pure (number negative digits)
    else Read.fail
  | _ => Read.fail

def float (cs : List Char) (fraction : Option (List Char)) : Read Value := do
  let (negative, body) := splitSign cs
  match splitDigits 10 false body with
  | none => Read.fail
  | some (whole, rest) =>
    let (decimals, rest) ←
      match fraction with
      | none => pure ([], rest)
      | some f =>
        if !rest.isEmpty then Read.fail
        else
          match splitDigits 10 true f with
          | some p => pure p
          | none => Read.fail
    let (below, exponent) ←
      match rest with
      | [] => pure (false, [])
      | e :: more =>
        if e ≠ 'e' && e ≠ 'E' then Read.fail
        else do
          let (below, ds) ←
            if more.isEmpty then do
              let _ ← Read.eat '+'
              pure (false, ← bare)
            else pure (splitSign more)
          match splitDigits 10 true ds with
          | some (ds, []) => pure (below, ds)
          | _ => Read.fail
    let power : Int := Text.digitsValue 10 exponent
    let shift : Int := (if below then -power else power) - decimals.length
    if Text.Double.ofDecimal (Text.digitsValue 10 (whole ++ decimals)) shift = .infinite then
      Read.fail
    else pure (number negative (whole ++ '.' :: decimals))

def plainNumber (cs : List Char) : Read Value := do
  match cs with
  | '0' :: 'x' :: ds => integer 16 ds
  | '0' :: 'o' :: ds => integer 8 ds
  | '0' :: 'b' :: ds => integer 2 ds
  | _ =>
    if cs.contains 'e' || cs.contains 'E' then float cs none
    else if ← Read.eat '.' then do
      let f ← bare
      float cs (some f)
    else if (splitSign cs).2 = "inf".toList || (splitSign cs).2 = "nan".toList then
      pure (number false cs)
    else integer 10 cs

def optionalPart (mark : Char) : Read Unit := do
  if ← Read.eat mark then let _ ← bare

def date (afterColon : Bool) : Read Value := do
  let rest ← get
  match rest with
  | ' ' :: c :: cs => if isBare c then set ((c :: cs).dropWhile isBare)
  | _ => pure ()
  if ← (if afterColon then pure true else Read.eat ':') then
    let _ ← bare
    Read.char ':'
    let _ ← bare
    optionalPart '.'
    optionalPart '+'
    optionalPart ':'
  pure .date

def isSublist (part : List Char) (cs : List Char) : Bool :=
  (List.range (cs.length + 1)).any fun i => part.isPrefixOf (cs.drop i)

def bareValue (cs : List Char) : Read Value := do
  if cs = "true".toList then pure (.bool true)
  else if cs = "false".toList then pure (.bool false)
  else if cs = "inf".toList || cs = "nan".toList then plainNumber cs
  else if (cs.head?.map fun c => c = '-' || c.isDigit).getD false then
    if cs.contains 'T' || cs.contains 't' ||
        ((cs.drop 1).contains '-' && !isSublist ['e', '-'] cs && !isSublist ['E', '-'] cs) then
      date false
    else if ← Read.eat ':' then date true
    else plainNumber cs
  else Read.fail

def gap : Nat → Read Unit
  | 0 => Read.fail
  | n + 1 => do
    blanks
    if ← Read.eat '\n' then gap n
    else if ← comment then gap n
    else pure ()

def gaps : Read Unit := fun s => gap (s.length + 1) s

mutual
/-- Reads a value. The first argument bounds the number of nested calls. -/
def value : Nat → Read Value
  | 0 => Read.fail
  | n + 1 => do
    match ← Read.peek? with
    | none => Read.fail
    | some c =>
      if c = '"' || c = '\'' then do
        let (_, s) ← string c
        pure (.string s)
      else if c = '[' then do
        let _ ← Read.next
        let vs ← items n
        pure (.array vs)
      else if c = '\x7b' then do
        let _ ← Read.next
        blanks
        if ← Read.eat '\x7d' then pure (.inline [])
        else do
          let es ← entries n []
          pure (.inline es)
      else if c = '+' then do
        let _ ← Read.next
        let cs ← bare
        plainNumber cs
      else do
        let cs ← bare
        bareValue cs

def items : Nat → Read (List Value)
  | 0 => Read.fail
  | n + 1 => do
    gaps
    if ← Read.eat ']' then pure []
    else do
      let v ← value n
      gaps
      if ← Read.eat ',' then do
        let vs ← items n
        pure (v :: vs)
      else do
        Read.char ']'
        pure [v]

def entries : Nat → List (String × Value) → Read (List (String × Value))
  | 0, _ => Read.fail
  | n + 1, before => do
    let path ← dottedKey
    Read.char '='
    blanks
    let v ← value n
    match insert? v path before with
    | none => Read.fail
    | some es => do
      blanks
      if ← Read.eat '\x7d' then pure es
      else do
        Read.char ','
        blanks
        entries n es
end

def header : Read Table := do
  Read.char '['
  let isArray ← Read.eat '['
  blanks
  let path ← dottedKey
  Read.char ']'
  if isArray then Read.char ']'
  restOfLine
  pure ⟨path, isArray, []⟩

def entry (before : List (String × Value)) : Read (List (String × Value)) := fun s =>
  (show Read (List (String × Value)) from do
    let path ← dottedKey
    Read.char '='
    blanks
    let v ← value (2 * s.length + 2)
    restOfLine
    match insert? v path before with
    | some es => pure es
    | none => Read.fail) s

def tables : Nat → Table → Read (List Table)
  | 0, _ => Read.fail
  | n + 1, current => do
    gaps
    match ← Read.peek? with
    | none => pure [current]
    | some '[' => do
      let next ← header
      return current :: (← tables n next)
    | some _ => do
      let es ← entry current.entries
      tables n { current with entries := es }

def foldLineEnds : List Char → List Char
  | '\r' :: '\n' :: cs => '\n' :: foldLineEnds cs
  | c :: cs => c :: foldLineEnds cs
  | [] => []

end Reader

def read? (text : String) : Option Json := do
  let cs := Reader.foldLineEnds text.toList
  let body := if cs.head?.map Char.toNat = some 0xFEFF then cs.drop 1 else cs
  let (ts, _) ← Reader.tables (body.length + 1) ⟨[], false, []⟩ body
  Table.document? ts

end RouteAtlas.Toml
