set_option autoImplicit false

namespace RouteAtlas

inductive Framework where
  | fileRouter
  | controller
  | rpc
  | configCms
  deriving DecidableEq, Repr

namespace Framework

def all : List Framework := [.fileRouter, .controller, .rpc, .configCms]

def name : Framework → String
  | .fileRouter => "file-router"
  | .controller => "controller"
  | .rpc => "rpc"
  | .configCms => "config-cms"

def markers : Framework → List String
  | .fileRouter => ["next"]
  | .controller => ["@nestjs/core", "@nestjs/common"]
  | .rpc => ["@trpc/server"]
  | .configCms => ["payload"]

def ofName? (s : String) : Option Framework := all.find? (·.name == s)

structure Unknown where
  text : String

def Unknown.message (e : Unknown) : String :=
  s!"unknown framework `{e.text}` (expected one of: file-router, controller, rpc, config-cms)"

def parse (s : String) : Except Unknown Framework :=
  match ofName? s with
  | some f => .ok f
  | none => .error ⟨s⟩

theorem mem_all (f : Framework) : f ∈ all := by cases f <;> decide

theorem ofName?_name (f : Framework) : ofName? f.name = some f := by cases f <;> decide

end Framework

structure FrameworkOptions where
  force : List Framework := []
  disable : List Framework := []

def Detection := Framework → Bool

namespace Detection

def none : Detection := fun _ => false

def set (d : Detection) (f : Framework) (enabled : Bool) : Detection :=
  fun g => if g = f then enabled else d g

def any (d : Detection) : Bool := Framework.all.any d

/-- Forces first, then disables, so a framework that is named in both is left out. -/
def withOverrides (d : Detection) (o : FrameworkOptions) : Detection :=
  o.disable.foldl (·.set · false) (o.force.foldl (·.set · true) d)

theorem withOverrides_apply (d : Detection) (o : FrameworkOptions) (f : Framework) :
    d.withOverrides o f = (!o.disable.contains f && (o.force.contains f || d f)) := by
  have fold (b : Bool) (fs : List Framework) (e : Detection) :
      fs.foldl (·.set · b) e f = if fs.contains f then b else e f := by
    induction fs generalizing e with
    | nil => simp
    | cons g gs ih =>
      rw [List.foldl_cons, ih]
      by_cases h : f = g <;> simp [set, h]
  simp only [withOverrides, fold]
  cases o.disable.contains f <;> cases o.force.contains f <;> simp

end Detection

end RouteAtlas
