import RouteAtlas.Text.Decimal
import RouteAtlas.Text.Letter
import RouteAtlas.Text.Read

set_option autoImplicit false

/-!
# Tokens

The lexical grammar: blanks and comments, names with escapes, numbers, strings, punctuators,
pieces of templates, regular expressions and the text inside markup elements. Every scan takes
the text that is left and returns what it found with the text after it.
-/
namespace RouteAtlas.Script

inductive Token where
  /-- A name or keyword; the flag says that it was spelled with an escape. -/
  | name (text : String) (escaped : Bool)
  | privateName (text : String)
  | punct (text : String)
  | str (value : String)
  | number (text : String)
  | bigint
  | tick
  | eof
  | bad
  deriving DecidableEq, Repr, Inhabited

namespace Token

def isLineEnd (c : Char) : Bool :=
  c = '\n' || c = '\r' || c.toNat = 0x2028 || c.toNat = 0x2029

def isBlank (c : Char) : Bool :=
  c = ' ' || c = '\t' || isLineEnd c || c.toNat = 0x0B || c.toNat = 0x0C || c.toNat = 0xA0 ||
    c.toNat = 0xFEFF || (c.toNat ≥ 0x1680 && Text.isBlank c)

def isNameStart (c : Char) : Bool := c.isAlpha || c = '$' || c = '_' || Text.isWordStart c

def isNamePart (c : Char) : Bool :=
  c.isAlphanum || c = '$' || c = '_' ||
    (c.toNat ≥ 0x80 && (Text.isWordPart c || c.toNat = 0x200C || c.toNat = 0x200D))

inductive Gap where
  | between
  | line
  /-- Inside a block comment; the flag says that the last character was a star. -/
  | block (star : Bool)

/-- What lies before the next token: the text from it on, its offset, and whether a line ends
before it. A block comment must be closed. -/
def skipGap : Gap → Nat → Bool → List Char → Option (List Char × Nat × Bool)
  | .between, pos, nl, [] => some ([], pos, nl)
  | .line, pos, nl, [] => some ([], pos, nl)
  | .block _, _, _, [] => none
  | .between, pos, nl, '/' :: '/' :: cs => skipGap .line (pos + 2) nl cs
  | .between, pos, nl, '/' :: '*' :: cs => skipGap (.block false) (pos + 2) nl cs
  | .between, pos, nl, '<' :: '!' :: '-' :: '-' :: cs => skipGap .line (pos + 4) nl cs
  | .between, pos, nl, c :: cs =>
    if isBlank c then skipGap .between (pos + 1) (nl || isLineEnd c) cs
    else if nl && c = '-' && ['-', '>'].isPrefixOf cs then skipGap .line (pos + 1) nl cs
    else some (c :: cs, pos, nl)
  | .line, pos, nl, c :: cs =>
    if isLineEnd c then skipGap .between (pos + 1) true cs else skipGap .line (pos + 1) nl cs
  | .block star, pos, nl, c :: cs =>
    if star && c = '/' then skipGap .between (pos + 1) nl cs
    else skipGap (.block (c = '*')) (pos + 1) (nl || isLineEnd c) cs

def unicodeEscape : List Char → Option (Nat × List Char × Nat)
  | '\x7b' :: cs =>
    let ds := cs.takeWhile fun c => (Text.hexValue? c).isSome
    match cs.drop ds.length with
    | '\x7d' :: rest =>
      let n := Text.digitsValue 16 ds
      if ds.isEmpty || n > 0x10FFFF then none else some (n, rest, ds.length + 2)
    | _ => none
  | a :: b :: c :: d :: rest =>
    if [a, b, c, d].all fun x => (Text.hexValue? x).isSome then
      some (Text.digitsValue 16 [a, b, c, d], rest, 4)
    else none
  | _ => none

/-- A lone half of a surrogate pair is kept as the escape that spells it. -/
def spelled (n : Nat) : List Char :=
  match Text.scalar? n with
  | some c => [c]
  | none => ['\\', 'u'] ++ Nat.toDigits 16 n

/-- The characters of a name, escapes resolved. The bound is the number of escapes allowed. -/
def nameChars : Nat → List Char → Option (List Char × List Char × Nat × Bool)
  | 0, _ => none
  | n + 1, s =>
    let plain := s.takeWhile isNamePart
    match s.drop plain.length with
    | '\\' :: 'u' :: rest =>
      match unicodeEscape rest with
      | some (code, rest, taken) =>
        match Text.scalar? code with
        | some c =>
          if isNamePart c then
            match nameChars n rest with
            | some (more, rest, k, _) =>
              some (plain ++ c :: more, rest, plain.length + 2 + taken + k, true)
            | none => none
          else none
        | none => none
      | none => none
    | '\\' :: _ => none
    | rest => some (plain, rest, plain.length, false)

def digitRun (isDigit : Char → Bool) (s : List Char) : List Char × List Char × Nat :=
  let run := s.takeWhile fun c => isDigit c || c = '_'
  (run.filter (· != '_'), s.drop run.length, run.length)

def isRadixDigit (radix : Nat) (c : Char) : Bool :=
  match Text.hexValue? c with
  | some v => v < radix
  | none => false

def radixNumber (radix : Nat) (s : List Char) : Option (Token × List Char × Nat) :=
  let (ds, rest, k) := digitRun (isRadixDigit radix) s
  if ds.isEmpty then none
  else
    match rest with
    | 'n' :: rest => some (.bigint, rest, k + 3)
    | rest =>
      let text := (Text.Double.ofRatio (Text.digitsValue radix ds) 1).render
      some (.number (String.ofList text), rest, k + 2)

def exponentPart : List Char → Option (Int × List Char × Nat)
  | c :: s =>
    if c = 'e' || c = 'E' then
      let (negative, s, signed) :=
        match s with
        | '-' :: s => (true, s, 1)
        | '+' :: s => (false, s, 1)
        | s => (false, s, 0)
      let (ds, rest, k) := digitRun Char.isDigit s
      if ds.isEmpty then none
      else
        let n : Int := Text.digitsValue 10 ds
        some (if negative then -n else n, rest, 1 + signed + k)
    else some (0, c :: s, 0)
  | [] => some (0, [], 0)

def decimalNumber (s : List Char) : Option (Token × List Char × Nat) :=
  let (whole, rest, k) := digitRun Char.isDigit s
  if whole.length > 1 && whole.head? = some '0' && whole.all (isRadixDigit 8) then
    let text := (Text.Double.ofRatio (Text.digitsValue 8 whole) 1).render
    some (.number (String.ofList text), rest, k)
  else
    match rest with
    | 'n' :: rest => if whole.isEmpty then none else some (.bigint, rest, k + 1)
    | _ =>
      let (fraction, rest, k) :=
        match rest with
        | '.' :: rest =>
          let (ds, rest, j) := digitRun Char.isDigit rest
          (ds, rest, k + 1 + j)
        | rest => ([], rest, k)
      match exponentPart rest with
      | some (e, rest, j) =>
        let value := Text.Double.ofDecimal (Text.digitsValue 10 (whole ++ fraction))
          (e - fraction.length)
        some (.number (String.ofList value.render), rest, k + j)
      | none => none

def numeral (s : List Char) : Option (Token × List Char × Nat) :=
  let found :=
    match s with
    | '0' :: 'x' :: s => radixNumber 16 s
    | '0' :: 'X' :: s => radixNumber 16 s
    | '0' :: 'o' :: s => radixNumber 8 s
    | '0' :: 'O' :: s => radixNumber 8 s
    | '0' :: 'b' :: s => radixNumber 2 s
    | '0' :: 'B' :: s => radixNumber 2 s
    | s => decimalNumber s
  match found with
  | some (t, rest, k) =>
    match rest with
    | c :: _ => if isNameStart c || c.isDigit then none else some (t, rest, k)
    | [] => some (t, rest, k)
  | none => none

def isOctal (c : Char) : Bool := '0' ≤ c && c ≤ '7'

def escape (s : List Char) : Option (List Char × List Char × Nat) :=
  match s with
  | [] => none
  | 'n' :: s => some (['\n'], s, 1)
  | 'r' :: s => some (['\r'], s, 1)
  | 't' :: s => some (['\t'], s, 1)
  | 'b' :: s => some ([Char.ofNat 8], s, 1)
  | 'v' :: s => some ([Char.ofNat 11], s, 1)
  | 'f' :: s => some ([Char.ofNat 12], s, 1)
  | '\r' :: '\n' :: s => some ([], s, 2)
  | 'x' :: a :: b :: s =>
    if (Text.hexValue? a).isSome && (Text.hexValue? b).isSome then
      some ([Char.ofNat (Text.digitsValue 16 [a, b])], s, 3)
    else none
  | 'x' :: _ => none
  | 'u' :: s =>
    match unicodeEscape s with
    | some (high, rest, k) =>
      match rest with
      | '\\' :: 'u' :: tail =>
        if 0xD800 ≤ high && high ≤ 0xDBFF then
          match unicodeEscape tail with
          | some (low, rest2, j) =>
            if 0xDC00 ≤ low && low ≤ 0xDFFF then
              some ([Char.ofNat (0x10000 + (high - 0xD800) * 0x400 + (low - 0xDC00))], rest2,
                k + j + 3)
            else some (spelled high, rest, k + 1)
          | none => none
        else some (spelled high, rest, k + 1)
      | _ => some (spelled high, rest, k + 1)
    | none => none
  | c :: s =>
    if isLineEnd c then some ([], s, 1)
    else if isOctal c then
      let ds := (c :: s).takeWhile isOctal
      let ds := ds.take (if c ≤ '3' then 3 else 2)
      some ([Char.ofNat (Text.digitsValue 8 ds)], (c :: s).drop ds.length, ds.length)
    else some ([c], s, 1)

/-- A string up to its closing quote, or to the end of its line where the quote is missing. The
bound counts rounds, each of which takes a character. -/
def stringTail (quote : Char) : Nat → List Char → List Char → Nat →
    Option (List Char × List Char × Nat)
  | 0, _, _, _ => none
  | n + 1, s, acc, pos =>
    match s with
    | [] => some (acc.reverse, [], pos)
    | c :: s =>
      if c = quote then some (acc.reverse, s, pos + 1)
      else if c = '\\' then
        match escape s with
        | some (cs, rest, k) => stringTail quote n rest (cs.reverse ++ acc) (pos + 1 + k)
        | none => none
      else if c = '\n' || c = '\r' then some (acc.reverse, c :: s, pos)
      else stringTail quote n s (c :: acc) (pos + 1)

def punctuators : List String :=
  ["...", "===", "!==", "**=", "&&=", "||=", "??=", "<<=", "=>", "==", "!=", "**", "*=", "&&",
    "&=", "||", "|=", "??", "++", "+=", "--", "-=", "<<", "<=", "%=", "^=", "/=", "=", "!", "*",
    "&", "|", "?", "+", "-", "<", ">", "%", "^", "~", "\x7b", "\x7d", "(", ")", "[", "]", ";",
    ",", ":", ".", "@", "/"]

def punctuator (s : List Char) : Option (Token × List Char × Nat) :=
  match s with
  | '?' :: '.' :: c :: cs =>
    if c.isDigit then some (.punct "?", '.' :: c :: cs, 1) else some (.punct "?.", c :: cs, 2)
  | '?' :: '.' :: [] => some (.punct "?.", [], 2)
  | _ =>
    match punctuators.find? fun p => p.toList.isPrefixOf s with
    | some p => some (.punct p, s.drop p.length, p.length)
    | none => none

/-- The token at the front of a text that begins with no blank: with the rest and its length. -/
def scan (s : List Char) : Token × List Char × Nat :=
  let found : Option (Token × List Char × Nat) :=
    match s with
    | [] => some (.eof, [], 0)
    | c :: cs =>
      if isNameStart c || c = '\\' then
        match nameChars s.length s with
        | some (text, rest, k, escaped) =>
          if text.isEmpty then none else some (.name (String.ofList text) escaped, rest, k)
        | none => none
      else if c.isDigit then numeral s
      else if c = '.' && (cs.head?.map Char.isDigit).getD false then numeral s
      else if c = '"' || c = '\'' then
        match stringTail c s.length cs [] 1 with
        | some (value, rest, k) => some (.str (String.ofList value), rest, k)
        | none => none
      else if c = '#' then
        match nameChars cs.length cs with
        | some (text, rest, k, _) =>
          if text.isEmpty || (text.head?.map Char.isDigit).getD false then none
          else some (.privateName (String.ofList text), rest, k + 1)
        | none => none
      else if c.toNat = 0x60 then some (.tick, cs, 1)
      else punctuator s
  found.getD (.bad, s, 0)

/-- A piece of a template: its value with escapes resolved (if they can be), its spelling,
whether the template ends after it, the rest and the length. -/
structure Piece where
  cooked : Option (List Char)
  raw : List Char
  isLast : Bool
  rest : List Char
  length : Nat

def templatePiece : Nat → List Char → Option (List Char) → List Char → Nat → Option Piece
  | 0, _, _, _, _ => none
  | n + 1, s, cooked, raw, pos =>
    match s with
    | [] => none
    | '$' :: '\x7b' :: rest => some ⟨cooked.map List.reverse, raw.reverse, false, rest, pos + 2⟩
    | '\r' :: '\n' :: rest =>
      templatePiece n rest (cooked.map ('\n' :: ·)) ('\n' :: raw) (pos + 2)
    | c :: rest =>
      if c.toNat = 0x60 then
        some ⟨cooked.map List.reverse, raw.reverse, true, rest, pos + 1⟩
      else if c = '\\' then
        let legacy := match rest with
          | d :: more => (d.isDigit && d != '0') ||
            (d = '0' && (more.head?.map Char.isDigit).getD false)
          | [] => false
        match if legacy then none else escape rest with
        | some (cs, after, k) =>
          templatePiece n after (cooked.map (cs.reverse ++ ·))
            ((rest.take k).reverse ++ '\\' :: raw) (pos + 1 + k)
        | none =>
          match rest with
          | [] => none
          | d :: more => templatePiece n more none (d :: '\\' :: raw) (pos + 2)
      else
        let c := if c = '\r' then '\n' else c
        templatePiece n rest (cooked.map (c :: ·)) (c :: raw) (pos + 1)

def regexTail : Bool → Nat → List Char → Option (List Char × Nat)
  | _, _, [] => none
  | inClass, pos, '\\' :: c :: cs =>
    if isLineEnd c then none else regexTail inClass (pos + 2) cs
  | inClass, pos, c :: cs =>
    if isLineEnd c then none
    else if c = '/' && !inClass then
      let flags := cs.takeWhile isNamePart
      some (cs.drop flags.length, pos + 1 + flags.length)
    else regexTail (if c = '[' then true else if c = ']' then false else inClass) (pos + 1) cs

end Token

end RouteAtlas.Script
