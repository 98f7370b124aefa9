set_option autoImplicit false

namespace RouteAtlas.Text

abbrev Read := StateT (List Char) Option

namespace Read

variable {α : Type}

def fail : Read α := fun _ => none

def peek? : Read (Option Char) := fun s => some (s.head?, s)

def next : Read Char
  | [] => none
  | c :: cs => some (c, cs)

def char (c : Char) : Read Unit
  | [] => none
  | d :: ds => if c = d then some ((), ds) else none

def eat (c : Char) : Read Bool
  | [] => some (false, [])
  | d :: ds => if c = d then some (true, ds) else some (false, d :: ds)

def text : List Char → Read Unit
  | [] => pure ()
  | c :: cs => do char c; text cs

def takeWhile (p : Char → Bool) : Read (List Char) := fun s =>
  some (s.takeWhile p, s.dropWhile p)

def skipWhile (p : Char → Bool) : Read Unit := fun s => some ((), s.dropWhile p)

def whole? (r : Read α) (s : List Char) : Option α :=
  match r s with
  | some (a, []) => some a
  | _ => none

end Read

def hexValue? (c : Char) : Option Nat :=
  if c.isDigit then some (c.toNat - '0'.toNat)
  else if 'a' ≤ c && c ≤ 'f' then some (c.toNat - 'a'.toNat + 10)
  else if 'A' ≤ c && c ≤ 'F' then some (c.toNat - 'A'.toNat + 10)
  else none

def digitsValue (base : Nat) (ds : List Char) : Nat :=
  ds.foldl (fun n c => n * base + (hexValue? c).getD 0) 0

def scalar? (n : Nat) : Option Char :=
  if n < 0xD800 || (0xE000 ≤ n && n < 0x110000) then some (Char.ofNat n) else none

end RouteAtlas.Text
