import RouteAtlas.Json.Value

set_option autoImplicit false

/-!
# TOML documents

A document is a list of tables under headers, each with the entries written in it. Read as a
tree it is an object: the tables whose headers share their first names form one member.
-/
namespace RouteAtlas.Toml

inductive Value where
  | string (value : String)
  | bool (value : Bool)
  | number (literal : String)
  | date
  | array (items : List Value)
  | inline (entries : List (String × Value))
  /-- A table made by a key with dots; later keys of the same table may extend it. -/
  | dotted (entries : List (String × Value))

mutual
/-- A value as a document of its own. A date becomes an object without any known field. -/
def Value.toJson : Value → Json
  | .string s => .string s
  | .bool b => .bool b
  | .number literal => .number literal
  | .date => .object [("$date", .null)]
  | .array items => .array (itemsToJson items)
  | .inline entries => .object (entriesToJson entries)
  | .dotted entries => .object (entriesToJson entries)

def itemsToJson : List Value → List Json
  | [] => []
  | v :: vs => v.toJson :: itemsToJson vs

def entriesToJson : List (String × Value) → List (String × Json)
  | [] => []
  | (k, v) :: es => (k, v.toJson) :: entriesToJson es
end

def alter? (name : String) (change : Option Value → Option Value) :
    List (String × Value) → Option (List (String × Value))
  | [] => (change none).map fun v => [(name, v)]
  | (k, v) :: rest =>
    if k = name then (change (some v)).map fun w => (k, w) :: rest
    else (alter? name change rest).map ((k, v) :: ·)

/-- Enters a value under a key with dots. Only a table that was made by such a key is extended;
a plain key is entered without a look at the others. -/
def insert? (value : Value) : List String → List (String × Value) → Option (List (String × Value))
  | [], _ => none
  | [name], entries => some (entries ++ [(name, value)])
  | name :: path, entries =>
    alter? name (fun
      | none => (insert? value path []).map .dotted
      | some (.dotted below) => (insert? value path below).map .dotted
      | some _ => none) entries

structure Table where
  header : List String
  isArray : Bool
  entries : List (String × Value)

namespace Table

def tail (t : Table) : Table := { t with header := t.header.drop 1 }

def beginsItem (t : Table) : Bool := t.header.isEmpty && t.isArray

/-- The tables of each element of an array: an element lasts until the next one begins. -/
def items : List Table → List (List Table)
  | [] => []
  | t :: ts =>
    match items ts with
    | [] => [[t]]
    | w :: ws => if (w.head?.map beginsItem).getD false then [t] :: w :: ws else (t :: w) :: ws

/-- The members of the object that the tables form together, where `below` gives the value
formed by the tables below one name. The headers are relative to the object. A table with an
empty header is the object itself, which may be written only once (`own` says that it has been)
and not as an element of an array. -/
def members (below : List Table → Option Json) (own : Bool) (seen : List String) :
    List Table → Option (List (String × Json))
  | [] => some []
  | t :: ts =>
    match t.header with
    | [] =>
      if own || t.isArray then none
      else (members below true seen ts).map (entriesToJson t.entries ++ ·)
    | name :: _ =>
      if seen.contains name then members below own seen ts
      else do
        let v ← below (((t :: ts).filter (·.header.head? == some name)).map tail)
        let rest ← members below own (name :: seen) ts
        return (name, v) :: rest

def value? : Nat → List Table → Option Json
  | 0, _ => none
  | n + 1, ts =>
    if (ts.head?.map beginsItem).getD false then
      ((items ts).mapM fun item =>
        match item with
        | [] => none
        | first :: rest => (members (value? n) true [] rest).map fun ms =>
          Json.object (entriesToJson first.entries ++ ms)).map Json.array
    else (members (value? n) false [] ts).map Json.object

def document? (ts : List Table) : Option Json :=
  value? ((ts.map (·.header.length)).foldl max 0 + 1) ts

end Table

end RouteAtlas.Toml
