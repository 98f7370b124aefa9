import RouteAtlas.Reference.Basic
import RouteAtlas.Rpc.Site

set_option autoImplicit false

/-!
# The graph of routers

Sites are joined by mounts and aliases. From a site that no other one mounts, every walk that
repeats no site leads to routes.
-/
namespace RouteAtlas.Rpc

structure RouterGraph where
  sites : List RouterSite
  procedureVars : List ProcedureVar

inductive Resolved where
  | router (site : Nat)
  | procedure (kind : ProcedureKind) (line : Nat)
  deriving DecidableEq

structure Found where
  name : String
  kind : ProcedureKind
  file : Nat
  line : Nat
  deriving DecidableEq

namespace RouterGraph

def boundTo? (g : RouterGraph) (file : Option Nat) (name : String) : Option Nat :=
  g.sites.findIdx? fun s =>
    s.binding = some name && (file.map fun f => decide (s.file = f)).getD true

def siteAt? (g : RouterGraph) (file : Nat) (key : Script.Span) : Option Nat :=
  g.sites.findIdx? fun s => s.file = file && s.key = key

def procedureVar? (g : RouterGraph) (file : Nat) (name : String) : Option ProcedureVar :=
  g.procedureVars.reverse.find? fun v => v.file = file && v.name = name

def importedFrom? (ws : Workspace) (file : Nat) (name : String) : Option Nat := do
  let d ← ws.project.decls[← ws.binding? file name]?
  match d.kind with
  | .imported specifier _ => ws.resolveImport? file specifier
  | _ => none

/-- What a mount leads to: a router of the same file, a procedure of the same file, or a router
bound to that name where it is imported from, or else anywhere. -/
def resolve? (ws : Workspace) (g : RouterGraph) (site : RouterSite) :
    MountTarget → Option Resolved
  | .inline key => (g.siteAt? site.file key).map .router
  | .ref name =>
    match g.boundTo? (some site.file) name with
    | some i => some (.router i)
    | none =>
      match g.procedureVar? site.file name with
      | some v => some (.procedure v.kind v.line)
      | none =>
        let outer := (ws.project.importedName? site.file name).getD name
        ((g.boundTo? (importedFrom? ws site.file name) outer).or (g.boundTo? none outer)).map
          .router

def alias? (g : RouterGraph) (i : Nat) : Option Nat := do
  let site ← g.sites[i]?
  if !site.procedures.isEmpty || !site.mounts.isEmpty then none
  else
    let callee ← site.callee
    let target ← (g.boundTo? (some site.file) callee).or (g.boundTo? none callee)
    if target = i then none else some target

def mountedBy (ws : Workspace) (g : RouterGraph) (i : Nat) (site : RouterSite) : List Nat :=
  (site.mounts.filterMap fun m =>
    match resolve? ws g site m.target with
    | some (.router child) => if child = i then none else some child
    | _ => none) ++ (g.alias? i).toList

def mounted (ws : Workspace) (g : RouterGraph) : List Nat :=
  g.sites.zipIdx.flatMap fun (site, i) => mountedBy ws g i site

/-- The names that are not empty and a last one, joined by dots. -/
def dotted (names : List String) (last : String) : String :=
  ".".intercalate (names.filter (fun n => !n.isEmpty) ++ [last])

def unvisited (g : RouterGraph) (walk : List Nat) : List Nat :=
  (List.range g.sites.length).filter fun i => !walk.contains i

theorem unvisited_cons_lt (g : RouterGraph) {walk : List Nat} {i : Nat}
    (hi : i < g.sites.length) (hw : i ∉ walk) :
    (g.unvisited (i :: walk)).length < (g.unvisited walk).length := by
  have hmem : i ∈ g.unvisited walk := by simp [unvisited, hi, hw]
  have hsub : g.unvisited (i :: walk) = (g.unvisited walk).filter (fun j => decide (j ≠ i)) := by
    simp only [unvisited, List.filter_filter]
    congr 1
    funext j
    by_cases h : j = i <;> simp [h]
  rw [hsub]
  exact List.length_filter_lt_length_iff_exists.mpr ⟨i, hmem, by simp⟩

/-- The procedures under a site, with `names` in front of theirs. A site that is on the walk
already is not entered again. -/
def emit (ws : Workspace) (g : RouterGraph) (walk : List Nat) (names : List String) (i : Nat) :
    List Found :=
  if h : i < g.sites.length ∧ i ∉ walk then
    match g.alias? i with
    | some target => emit ws g (i :: walk) names target
    | none =>
      let site := g.sites[i]
      (site.procedures.map fun p => ⟨dotted names p.name, p.kind, site.file, p.line⟩) ++
        site.mounts.flatMap fun m =>
          match resolve? ws g site m.target with
          | some (.router child) => emit ws g (i :: walk) (names ++ [m.key]) child
          | some (.procedure kind line) => [⟨dotted names m.key, kind, site.file, line⟩]
          | none => []
  else []
termination_by (g.unvisited walk).length
decreasing_by
  all_goals exact unvisited_cons_lt g h.1 h.2

def roots (ws : Workspace) (g : RouterGraph) : List Nat :=
  (List.range g.sites.length).filter fun i => !(mounted ws g).contains i

def procedures (ws : Workspace) (g : RouterGraph) : List Found :=
  (roots ws g).flatMap fun i =>
    emit ws g [] [routerName (((g.sites[i]?).map (·.name)).getD "")] i

end RouterGraph

end RouteAtlas.Rpc
