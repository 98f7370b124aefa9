import RouteAtlas.Text.Symbol

set_option autoImplicit false

namespace RouteAtlas

inductive CharSet where
  | range (lo hi : Char)
  | digit
  | space
  | word
  | named (name : String)
  | compl (s : CharSet)
  | union (s t : CharSet)
  | inter (s t : CharSet)
  | empty
  | anyCase (s : CharSet)

namespace CharSet

def caseVariants (c : Char) : List Char :=
  let lower := Text.shifted Text.toLowerRuns c
  let upper := Text.shifted Text.toUpperRuns c
  [c, lower, upper, Text.shifted Text.toLowerRuns upper, Text.shifted Text.toUpperRuns lower]

def mem : CharSet → Char → Bool
  | .range lo hi, c => lo ≤ c && c ≤ hi
  | .digit, c => Text.isDecimalDigit c
  | .space, c => Text.isBlank c
  | .word, c => Text.isWordClass c
  | .named name, c => ((Text.namedClass? name).map (· c)).getD false
  | .compl s, c => !s.mem c
  | .union s t, c => s.mem c || t.mem c
  | .inter s t, c => s.mem c && t.mem c
  | .empty, _ => false
  | .anyCase s, c => (caseVariants c).any s.mem

def single (c : Char) : CharSet := .range c c

end CharSet

inductive Anchor where
  | textStart
  | textEnd
  | lineStart
  | lineEnd
  | wordBoundary
  | notWordBoundary
  | wordStart
  | wordEnd

inductive Pattern where
  | empty
  | oneOf (s : CharSet)
  | anchor (a : Anchor)
  | seq (p q : Pattern)
  | alt (p q : Pattern)
  /-- At least `least` rounds, and at most `most` where there is a bound. -/
  | rounds (p : Pattern) (least : Nat) (most : Option Nat)

namespace Pattern

def Anchor.holds (text : Array Char) (i : Nat) : Anchor → Bool
  | .textStart => i = 0
  | .textEnd => i = text.size
  | .lineStart => i = 0 || text[i - 1]? = some '\n'
  | .lineEnd => i = text.size || text[i]? = some '\n'
  | .wordBoundary => before != after
  | .notWordBoundary => before == after
  | .wordStart => !before && after
  | .wordEnd => before && !after
where
  before : Bool := i > 0 && (text[i - 1]?.map Text.isWordClass).getD false
  after : Bool := (text[i]?.map Text.isWordClass).getD false

/-- Exactly `n` rounds, given up early when no position is left. -/
def exactly (step : List Nat → List Nat) : Nat → List Nat → List Nat
  | 0, ps => ps
  | n + 1, ps => if ps.isEmpty then [] else exactly step n (step ps)

/-- All positions reached in at most `n` rounds, beginning from `frontier`. -/
def upTo (step : List Nat → List Nat) : Nat → List Nat → List Nat → List Nat
  | 0, _, seen => seen
  | n + 1, frontier, seen =>
    let fresh := (step frontier).filter fun p => !seen.contains p
    if fresh.isEmpty then seen else upTo step n fresh (seen ++ fresh)

/-- The positions where a match that begins at one of `starts` may end. -/
def ends (text : Array Char) : Pattern → List Nat → List Nat
  | .empty, starts => starts
  | .oneOf s, starts =>
    starts.filterMap fun i =>
      match text[i]? with
      | some c => if s.mem c then some (i + 1) else none
      | none => none
  | .anchor a, starts => starts.filter (Anchor.holds text · a)
  | .seq p q, starts => q.ends text (p.ends text starts)
  | .alt p q, starts => (p.ends text starts ++ q.ends text starts).eraseDups
  | .rounds p least most, starts =>
    let first := exactly (fun ps => (p.ends text ps).eraseDups) least starts
    let more :=
      match most with
      | some m => min (m - least) (text.size + 1)
      | none => text.size + 1
    upTo (fun ps => (p.ends text ps).eraseDups) more first first

def isMatch (p : Pattern) (text : String) : Bool :=
  let cs := text.toList.toArray
  !(p.ends cs (List.range (cs.size + 1))).isEmpty

end Pattern

end RouteAtlas
