import RouteAtlas.Pattern.Basic
import RouteAtlas.Text.Read

set_option autoImplicit false

/-!
# Reading patterns

The written form of a pattern: alternatives, repetitions, groups with flags and names, bracketed
classes with nested sets, escapes and named properties. Anything else is refused, look-around
and back-references included, and so is a pattern that would grow too large.
-/
namespace RouteAtlas.Pattern

structure Flags where
  ignoreCase : Bool := false
  multiLine : Bool := false
  dotAll : Bool := false
  swapGreed : Bool := false
  unicode : Bool := true
  freeSpacing : Bool := false
  crlf : Bool := false

structure Source where
  rest : List Char
  flags : Flags := {}
  names : List (List Char) := []

abbrev Parse := StateT Source Option

namespace Parse

def fail {α : Type} : Parse α := fun _ => none

def peek? : Parse (Option Char) := do return (← get).rest.head?

def bump : Parse Unit := modify fun s => { s with rest := s.rest.drop 1 }

def next : Parse Char := do
  match ← peek? with
  | some c => bump; pure c
  | none => fail

def eat (c : Char) : Parse Bool := do
  if (← peek?) = some c then bump; pure true else pure false

def expect (c : Char) : Parse Unit := do
  if !(← eat c) then fail

def eatText (t : String) : Parse Bool := do
  let s ← get
  if t.toList.isPrefixOf s.rest then
    set { s with rest := s.rest.drop t.length }
    pure true
  else pure false

def takeWhile (p : Char → Bool) : Parse (List Char) := do
  let s ← get
  set { s with rest := s.rest.dropWhile p }
  pure (s.rest.takeWhile p)

def dropSpace : Nat → List Char → List Char
  | 0, s => s
  | n + 1, s =>
    match s.dropWhile Text.isBlank with
    | '#' :: cs => dropSpace n (cs.dropWhile (· != '\n'))
    | s => s

def space : Parse Unit := do
  let s ← get
  if s.flags.freeSpacing then set { s with rest := dropSpace s.rest.length s.rest }

end Parse

open Parse

def withCase (flags : Flags) (s : CharSet) : CharSet :=
  if flags.ignoreCase then .anyCase s else s

def hexDigits (count : Nat) : Parse (List Char) :=
  (List.replicate count ()).mapM fun _ => do
    let c ← next
    if (Text.hexValue? c).isSome then pure c else fail

/-- A code point after `\x`, `\u` or `\U`: so many digits, or any number in braces. -/
def hexEscape (count : Nat) : Parse Char := do
  let ds ←
    if ← eat '\x7b' then do
      let ds ← takeWhile fun c => (Text.hexValue? c).isSome
      expect '\x7d'
      if ds.isEmpty then fail else pure ds
    else hexDigits count
  match Text.scalar? (Text.digitsValue 16 ds) with
  | some c => pure c
  | none => fail

def propertyClass (negated : Bool) : Parse CharSet := do
  let inner ←
    if ← eat '\x7b' then do
      let cs ← takeWhile (· != '\x7d')
      expect '\x7d'
      pure cs
    else do
      let c ← next
      pure [c]
  let (negated, inner) :=
    match inner with
    | '^' :: cs => (!negated, cs)
    | cs => (negated, cs)
  let value := ((inner.reverse.takeWhile fun c => c != '=' && c != ':').reverse)
  let name := String.ofList value
  if (Text.namedClass? name).isSome then
    pure (if negated then .compl (.named name) else .named name)
  else fail

def isMeta (c : Char) : Bool := "\\.+*?()|[]\x7b\x7d^$#&-~".toList.contains c

def isEscapable (c : Char) : Bool :=
  isMeta c || (c.toNat < 0x80 && !c.isAlphanum && c != '<' && c != '>')

inductive Escape where
  | char (c : Char)
  | set (s : CharSet)
  | anchor (a : Anchor)

def escape : Parse Escape := do
  let c ← next
  match c with
  | 'd' => pure (.set .digit)
  | 'D' => pure (.set (.compl .digit))
  | 's' => pure (.set .space)
  | 'S' => pure (.set (.compl .space))
  | 'w' => pure (.set .word)
  | 'W' => pure (.set (.compl .word))
  | 'p' => do let s ← propertyClass false; pure (.set s)
  | 'P' => do let s ← propertyClass true; pure (.set s)
  | 'x' => do let d ← hexEscape 2; pure (.char d)
  | 'u' => do let d ← hexEscape 4; pure (.char d)
  | 'U' => do let d ← hexEscape 8; pure (.char d)
  | 'a' => pure (.char (Char.ofNat 7))
  | 'f' => pure (.char (Char.ofNat 12))
  | 't' => pure (.char '\t')
  | 'n' => pure (.char '\n')
  | 'r' => pure (.char '\r')
  | 'v' => pure (.char (Char.ofNat 11))
  | 'A' => pure (.anchor .textStart)
  | 'z' => pure (.anchor .textEnd)
  | 'b' => do
    if ← eatText "\x7bstart\x7d" then pure (.anchor .wordStart)
    else if ← eatText "\x7bend\x7d" then pure (.anchor .wordEnd)
    else pure (.anchor .wordBoundary)
  | 'B' => pure (.anchor .notWordBoundary)
  | '<' => pure (.anchor .wordStart)
  | '>' => pure (.anchor .wordEnd)
  | c => if isEscapable c then pure (.char c) else fail

def asciiClass? : String → Option CharSet
  | "alnum" => some (.union (.range '0' '9') (.union (.range 'A' 'Z') (.range 'a' 'z')))
  | "alpha" => some (.union (.range 'A' 'Z') (.range 'a' 'z'))
  | "ascii" => some (.range (Char.ofNat 0) (Char.ofNat 0x7F))
  | "blank" => some (.union (.single '\t') (.single ' '))
  | "cntrl" => some (.union (.range (Char.ofNat 0) (Char.ofNat 0x1F)) (.single (Char.ofNat 0x7F)))
  | "digit" => some (.range '0' '9')
  | "graph" => some (.range '!' '~')
  | "lower" => some (.range 'a' 'z')
  | "print" => some (.range ' ' '~')
  | "punct" => some (.union (.union (.range '!' '/') (.range ':' '@'))
      (.union (.range '[' (Char.ofNat 0x60)) (.range '\x7b' '~')))
  | "space" => some (.union (.range (Char.ofNat 9) (Char.ofNat 13)) (.single ' '))
  | "upper" => some (.range 'A' 'Z')
  | "word" => some (.union (.single '_')
      (.union (.range '0' '9') (.union (.range 'A' 'Z') (.range 'a' 'z'))))
  | "xdigit" => some (.union (.range '0' '9') (.union (.range 'A' 'F') (.range 'a' 'f')))
  | _ => none

def asciiClass : Parse (Option CharSet) := do
  let saved ← get
  if ← eatText "[:" then
    let negated ← eat '^'
    let name ← takeWhile Char.isAlpha
    if ← eatText ":]" then
      match asciiClass? (String.ofList name) with
      | some s => pure (some (if negated then .compl s else s))
      | none => set saved; pure none
    else
      set saved
      pure none
  else pure none

inductive ClassItem where
  | char (c : Char)
  | set (s : CharSet)

def classPrimitive : Parse ClassItem := do
  let c ← next
  if c = '\\' then
    match ← escape with
    | .char d => pure (.char d)
    | .set s => pure (.set s)
    | .anchor _ => fail
  else pure (.char c)

def classRange : Parse CharSet := do
  let first ← classPrimitive
  space
  let s ← get
  match s.rest with
  | '-' :: d :: _ =>
    if d = ']' || d = '-' then
      match first with
      | .char c => pure (CharSet.single c)
      | .set t => pure t
    else do
      bump
      space
      let last ← classPrimitive
      match first, last with
      | .char lo, .char hi => if lo ≤ hi then pure (.range lo hi) else fail
      | _, _ => fail
  | _ =>
    match first with
    | .char c => pure (CharSet.single c)
    | .set t => pure t

inductive ClassOp where
  | inter
  | diff
  | symDiff

def ClassOp.apply : ClassOp → CharSet → CharSet → CharSet
  | .inter, s, t => .inter s t
  | .diff, s, t => .inter s (.compl t)
  | .symDiff, s, t => .union (.inter s (.compl t)) (.inter t (.compl s))

def combine (pending : Option (CharSet × ClassOp)) (current : CharSet) : CharSet :=
  match pending with
  | some (left, op) => op.apply left current
  | none => current

mutual
def bracketed : Nat → Parse CharSet
  | 0 => fail
  | n + 1 => do
    space
    let negated ← eat '^'
    space
    let dashes ← takeWhile (· == '-')
    let start : CharSet := if dashes.isEmpty then .empty else .single '-'
    let bracket ← if dashes.isEmpty then eat ']' else pure false
    let start := if bracket then CharSet.single ']' else start
    let s ← classItems n none start
    let flags := (← get).flags
    let s := withCase flags s
    pure (if negated then .compl s else s)

def classItems : Nat → Option (CharSet × ClassOp) → CharSet → Parse CharSet
  | 0, _, _ => fail
  | n + 1, pending, current => do
    space
    match (← get).rest with
    | [] => fail
    | ']' :: _ => do bump; pure (combine pending current)
    | '&' :: '&' :: _ => do
      bump; bump
      classItems n (some (combine pending current, .inter)) .empty
    | '-' :: '-' :: _ => do
      bump; bump
      classItems n (some (combine pending current, .diff)) .empty
    | '~' :: '~' :: _ => do
      bump; bump
      classItems n (some (combine pending current, .symDiff)) .empty
    | '[' :: _ => do
      match ← asciiClass with
      | some s => classItems n pending (.union current s)
      | none => do
        bump
        let s ← bracketed n
        classItems n pending (.union current s)
    | _ => do
      let s ← classRange
      classItems n pending (.union current s)
end

def decimal : Parse Nat := do
  let _ ← takeWhile Text.isBlank
  let ds ← takeWhile Char.isDigit
  let _ ← takeWhile Text.isBlank
  let n := Text.digitsValue 10 ds
  if ds.isEmpty || n ≥ Nat.pow 2 32 then fail else pure n

def bounds : Parse (Nat × Option Nat) := do
  space
  let least ← decimal
  space
  let most ←
    if ← eat ',' then do
      space
      if (← peek?) = some '\x7d' then pure none
      else do
        let m ← decimal
        pure (some m)
    else pure (some least)
  space
  expect '\x7d'
  match most with
  | some m => if least ≤ m then pure (least, most) else fail
  | none => pure (least, most)

def setFlag (on : Bool) (f : Flags) : Char → Option Flags
  | 'i' => some { f with ignoreCase := on }
  | 'm' => some { f with multiLine := on }
  | 's' => some { f with dotAll := on }
  | 'U' => some { f with swapGreed := on }
  | 'u' => some { f with unicode := on }
  | 'x' => some { f with freeSpacing := on }
  | 'R' => some { f with crlf := on }
  | _ => none

def flagItems : Nat → List Char → Bool → Bool → Parse Unit
  | 0, _, _, _ => fail
  | n + 1, used, negated, dangling => do
    match ← peek? with
    | none => fail
    | some c =>
      if c = ':' || c = ')' then
        if dangling then fail else pure ()
      else if c = '-' then
        if negated then fail
        else do
          bump
          flagItems n used true true
      else if used.contains c then fail
      else do
        let s ← get
        match setFlag (!negated) s.flags c with
        | some f => do
          set { s with flags := f }
          bump
          flagItems n (c :: used) negated false
        | none => fail

def isNameStart (c : Char) : Bool := c = '_' || Text.isAlphabetic c

def isNamePart (c : Char) : Bool :=
  isNameStart c || Text.isNumber c || c = '.' || c = '[' || c = ']'

def groupName : Parse Unit := do
  let name ← takeWhile (· != '>')
  expect '>'
  match name with
  | [] => fail
  | c :: cs =>
    let s ← get
    if isNameStart c && cs.all isNamePart && !s.names.contains name then
      set { s with names := name :: s.names }
    else fail

def dot (f : Flags) : CharSet :=
  if f.dotAll then .compl .empty
  else if f.crlf then .compl (.union (.single '\n') (.single '\r'))
  else .compl (.single '\n')

/-- An item of a sequence; a bare change of flags is no operand for a repetition. -/
inductive Item where
  | pattern (p : Pattern)
  | flags

def ofEscape (f : Flags) : Escape → Pattern
  | .char c => .oneOf (withCase f (.single c))
  | .set s => .oneOf (withCase f s)
  | .anchor a => .anchor a

def repetitions : Nat → Item → Parse Item
  | 0, _ => fail
  | n + 1, item => do
    space
    let operand : Parse Pattern :=
      match item with
      | .pattern p => pure p
      | .flags => fail
    match ← peek? with
    | some '*' => do
      bump
      let p ← operand
      let _ ← eat '?'
      repetitions n (.pattern (.rounds p 0 none))
    | some '+' => do
      bump
      let p ← operand
      let _ ← eat '?'
      repetitions n (.pattern (.rounds p 1 none))
    | some '?' => do
      bump
      let p ← operand
      let _ ← eat '?'
      repetitions n (.pattern (.rounds p 0 (some 1)))
    | some '\x7b' => do
      bump
      let p ← operand
      let (least, most) ← bounds
      let _ ← eat '?'
      repetitions n (.pattern (.rounds p least most))
    | _ => pure item

mutual
def alternatives : Nat → Parse Pattern
  | 0 => fail
  | n + 1 => do
    let p ← sequence n
    if ← eat '|' then do
      let q ← alternatives n
      pure (.alt p q)
    else pure p

def sequence : Nat → Parse Pattern
  | 0 => fail
  | n + 1 => do
    space
    match ← peek? with
    | none => pure .empty
    | some '|' => pure .empty
    | some ')' => pure .empty
    | some c => do
      bump
      let item ← item n c
      let item ← repetitions n item
      let rest ← sequence n
      match item with
      | .pattern p => pure (.seq p rest)
      | .flags => pure rest

def item : Nat → Char → Parse Item
  | 0, _ => fail
  | n + 1, c => do
    let f := (← get).flags
    match c with
    | '*' => fail
    | '+' => fail
    | '?' => fail
    | '\x7b' => fail
    | '.' => pure (.pattern (.oneOf (dot f)))
    | '^' => pure (.pattern (.anchor (if f.multiLine then .lineStart else .textStart)))
    | '$' => pure (.pattern (.anchor (if f.multiLine then .lineEnd else .textEnd)))
    | '\\' => do
      let e ← escape
      pure (.pattern (ofEscape f e))
    | '[' => do
      let s ← bracketed n
      pure (.pattern (.oneOf s))
    | '(' => group n
    | c => pure (.pattern (.oneOf (withCase f (.single c))))

/-- A group after its opening bracket. The flags of the surroundings come back at its end. -/
def group : Nat → Parse Item
  | 0 => fail
  | n + 1 => do
    let outer := (← get).flags
    space
    let rest := (← get).rest
    if "?=".toList.isPrefixOf rest || "?!".toList.isPrefixOf rest ||
        "?<=".toList.isPrefixOf rest || "?<!".toList.isPrefixOf rest then fail
    else if ← eatText "?P<" then do
      groupName
      body n outer
    else if ← eatText "?<" then do
      groupName
      body n outer
    else if ← eat '?' then do
      let before := (← get).rest
      flagItems before.length [] false false
      let last ← next
      if last = ')' then
        if before.head? = some ')' then fail else pure .flags
      else body n outer
    else body n outer

def body : Nat → Flags → Parse Item
  | 0, _ => fail
  | n + 1, outer => do
    let p ← alternatives n
    expect ')'
    modify fun s => { s with flags := outer }
    pure (.pattern p)
end

def setSize : CharSet → Nat
  | .range _ hi => if hi.toNat < 0x80 then 40 else 200
  | .digit => 3000
  | .space => 400
  | .word => 60000
  | .named _ => 50000
  | .compl s => setSize s + 200
  | .union s t => setSize s + setSize t
  | .inter s t => setSize s + setSize t
  | .empty => 0
  | .anyCase s => 2 * setSize s

def automatonSize : Pattern → Nat
  | .empty => 0
  | .oneOf s => setSize s
  | .anchor _ => 40
  | .seq p q => automatonSize p + automatonSize q
  | .alt p q => automatonSize p + automatonSize q + 80
  | .rounds p least most => (automatonSize p + 40) * max 1 (most.getD least)

def sizeLimit : Nat := 10 * 1024 * 1024

/-- Reads a whole pattern. Every nested call but a few takes a character. -/
def parse? (text : String) : Option Pattern :=
  let cs := text.toList
  match alternatives (4 * cs.length + 4) ⟨cs, {}, []⟩ with
  | some (p, s) => if s.rest.isEmpty && automatonSize p ≤ sizeLimit then some p else none
  | none => none

end RouteAtlas.Pattern
