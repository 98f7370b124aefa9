import RouteAtlas.Project.Basic

set_option autoImplicit false

/-!
# References and what they stand for

An expression stands for a literal that is written somewhere in the project. The values found
keep where they are written, and a walk keeps what it is in the middle of, so that it does not
go round in circles.
-/
namespace RouteAtlas

open Script

/-- A project with the disk on which its imports are looked up. -/
structure Workspace where
  disk : Disk
  project : Project

namespace Workspace

def relPath (ws : Workspace) (file : Nat) : String :=
  ((ws.project.files[file]?).map (·.relPath)).getD ""

def binding? (ws : Workspace) (file : Nat) (name : String) : Option Nat :=
  (ws.project.files[file]?).bind (·.binding? name)

def export? (ws : Workspace) (file : Nat) (name : String) : Option Nat :=
  (ws.project.files[file]?).bind (·.export? name)

def resolveImport? (ws : Workspace) (fromFile : Nat) (specifier : String) : Option Nat :=
  ws.project.resolveImport? ws.disk fromFile specifier

/-- The loaded files that a file exports all names of, in order. -/
def starTargets (ws : Workspace) (file : Nat) : List Nat :=
  (((ws.project.files[file]?).map (·.index.stars)).getD []).filterMap (ws.resolveImport? file)

def lineOf (ws : Workspace) (file : Nat) (span : Span) : Nat :=
  ((ws.project.files[file]?).map (·.lineOf span)).getD 0

def path (ws : Workspace) (file : Nat) : String :=
  ((ws.project.files[file]?).map (·.path)).getD ""

end Workspace

namespace Reference

/-- Who holds a tree: a declaration holds its initial value, and a call that was searched for
holds its own arguments. A literal that both hold counts as two. -/
inductive Holder where
  | declaration
  | call
  deriving DecidableEq, Repr

structure Origin where
  file : Nat
  holder : Holder
  deriving DecidableEq, Repr

structure Literal where
  origin : Origin
  span : Span
  deriving DecidableEq, Repr

structure ObjectRef where
  origin : Origin
  span : Span
  properties : List Node

structure ArrayRef where
  origin : Origin
  span : Span
  elements : List Node

def ObjectRef.literal (o : ObjectRef) : Literal := ⟨o.origin, o.span⟩

def ArrayRef.literal (a : ArrayRef) : Literal := ⟨a.origin, a.span⟩

inductive Value where
  | object (o : ObjectRef)
  | array (a : ArrayRef)
  | namespace (file : Nat)
  | text (s : String)
  | flag (b : Bool)

inductive PropertyValue where
  | expr (e : Node)
  | shorthand (name : String)

structure Property where
  origin : Origin
  value : PropertyValue

/-- What a walk is in the middle of. -/
structure Walk where
  depth : Nat := 0
  decls : List Nat := []
  exports : List (Nat × String) := []
  containers : List Literal := []
  /-- The literals that have been listed; this one only grows. -/
  seen : List Literal := []
  deriving DecidableEq

/-- The steps of a walk: they change its state and write messages. -/
abbrev Tracing := StateT Walk Logged

/-- The number of nested steps beyond which nothing is followed. -/
def maxDepth : Nat := 32

namespace Tracing

variable {α β : Type}

def debug (text : String) : Tracing Unit := fun w => do
  Logged.debug text
  return ((), w)

def between (enter leave : Walk → Walk) (m : Tracing α) : Tracing α := do
  modify enter
  let a ← m
  modify leave
  return a

def deeper (m : Tracing α) : Tracing α :=
  between (fun w => { w with depth := w.depth + 1 }) (fun w => { w with depth := w.depth - 1 }) m

def following (id : Nat) (m : Tracing α) : Tracing α :=
  between (fun w => { w with decls := id :: w.decls })
    (fun w => { w with decls := w.decls.erase id }) m

def searching (key : Nat × String) (m : Tracing α) : Tracing α :=
  between (fun w => { w with exports := key :: w.exports })
    (fun w => { w with exports := w.exports.erase key }) m

def opening (l : Literal) (m : Tracing α) : Tracing α :=
  between (fun w => { w with containers := l :: w.containers })
    (fun w => { w with containers := w.containers.erase l }) m

def firstFound (step : α → Tracing (Option β)) : List α → Tracing (Option β)
  | [] => pure none
  | a :: rest => do
    match ← step a with
    | some b => return some b
    | none => firstFound step rest

def gather (step : α → Tracing (List β)) : List α → Tracing (List β)
  | [] => pure []
  | a :: rest => do
    let first ← step a
    let others ← gather step rest
    return first ++ others

def run (m : Tracing α) : Logged α := do
  let r ← m {}
  return r.1

end Tracing

end Reference

end RouteAtlas
