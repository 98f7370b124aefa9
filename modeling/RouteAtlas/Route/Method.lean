import RouteAtlas.Text.Blank

set_option autoImplicit false

namespace RouteAtlas

inductive Method where
  | get
  | post
  | put
  | patch
  | delete
  | head
  | options
  deriving DecidableEq, Repr

namespace Method

def all : List Method := [.get, .post, .put, .patch, .delete, .head, .options]

def name : Method → String
  | .get => "GET"
  | .post => "POST"
  | .put => "PUT"
  | .patch => "PATCH"
  | .delete => "DELETE"
  | .head => "HEAD"
  | .options => "OPTIONS"

def hasBody : Method → Bool
  | .post | .put | .patch => true
  | _ => false

def ofName? (s : String) : Option Method := all.find? (·.name == s)

structure Unknown where
  text : String

def Unknown.message (e : Unknown) : String := s!"unknown HTTP method: {e.text}"

/-- Reads a verb, whatever the case and the blanks around it. -/
def parse (s : String) : Except Unknown Method :=
  let text := String.ofList ((Text.trim s.toList).map Char.toUpper)
  match ofName? text with
  | some m => .ok m
  | none => .error ⟨text⟩

theorem mem_all (m : Method) : m ∈ all := by cases m <;> decide

theorem ofName?_name (m : Method) : ofName? m.name = some m := by cases m <;> decide

theorem ofName?_eq_some_iff {name : String} {v : Method} :
    ofName? name = some v ↔ v.name = name := by
  constructor
  · intro h
    have hname := List.find?_some h
    exact eq_of_beq hname
  · rintro rfl
    exact v.ofName?_name

end Method

end RouteAtlas
