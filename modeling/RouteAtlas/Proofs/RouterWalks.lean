import Mathlib.Data.List.Basic
import RouteAtlas.Proofs.SyntaxParts
import RouteAtlas.Rpc.Survey

set_option autoImplicit false

/-!
# Walks through the graph of routers

The handlers of a survey are listed here by the walks that lead to them. What stands at a site or
leads on from it is numbered, so a walk is a sequence of numbers, and the survey lists its
handlers in the order of these sequences, one for every walk that repeats no site and ends with a
procedure.
-/
namespace RouteAtlas.Rpc

inductive Exit where
  /-- A procedure of the site, or a mount of a variable that holds one. -/
  | item (name : String) (kind : ProcedureKind) (line : Nat)
  /-- A mount of another router. Without a key it is the site that an empty one stands for. -/
  | edge (key : Option String) (child : Nat)
  deriving DecidableEq

namespace RouterGraph

def mountExit? (ws : Workspace) (g : RouterGraph) (site : RouterSite) (m : Mount) : Option Exit :=
  match resolve? ws g site m.target with
  | some (.router child) => some (.edge (some m.key) child)
  | some (.procedure kind line) => some (.item m.key kind line)
  | none => none

def exits (ws : Workspace) (g : RouterGraph) (i : Nat) : List Exit :=
  match g.alias? i with
  | some target => [.edge none target]
  | none =>
    match g.sites[i]? with
    | some site =>
      (site.procedures.map fun p => .item p.name p.kind p.line) ++
        site.mounts.filterMap (mountExit? ws g site)
    | none => []

def fileOf (g : RouterGraph) (i : Nat) : Nat := ((g.sites[i]?).map (·.file)).getD 0

def exitFound (ws : Workspace) (g : RouterGraph) (walk : List Nat) (names : List String) (i : Nat) :
    Exit → List Found
  | .item name kind line => [⟨dotted names name, kind, g.fileOf i, line⟩]
  | .edge key child => emit ws g (i :: walk) (names ++ key.toList) child

theorem mountExit?_found (ws : Workspace) (g : RouterGraph) (walk : List Nat)
    (names : List String) {i : Nat} {site : RouterSite} (hi : g.sites[i]? = some site) (m : Mount) :
    (mountExit? ws g site m).toList.flatMap (exitFound ws g walk names i) =
      match resolve? ws g site m.target with
      | some (.router child) => emit ws g (i :: walk) (names ++ [m.key]) child
      | some (.procedure kind line) => [⟨dotted names m.key, kind, site.file, line⟩]
      | none => [] := by
  unfold mountExit?
  split <;> simp [exitFound, fileOf, hi]

theorem emit_eq_exits (ws : Workspace) (g : RouterGraph) (walk : List Nat) (names : List String)
    (i : Nat) :
    emit ws g walk names i =
      if i < g.sites.length ∧ i ∉ walk then
        (exits ws g i).flatMap (exitFound ws g walk names i)
      else [] := by
  rw [emit]
  by_cases h : i < g.sites.length ∧ i ∉ walk
  · have hi : g.sites[i]? = some g.sites[i] := List.getElem?_eq_getElem h.1
    simp only [h, not_false_eq_true, and_self, ↓reduceDIte, ↓reduceIte]
    unfold exits
    cases g.alias? i with
    | some target => simp [exitFound]
    | none =>
      simp only [hi, List.flatMap_append, List.filterMap_eq_flatMap_toList, List.flatMap_assoc,
        mountExit?_found ws g walk names hi]
      congr 1
      rw [List.flatMap_map, List.map_eq_flatMap]
      simp [exitFound, fileOf, hi]
  · simp [h]

theorem lt_length_of_exit {ws : Workspace} {g : RouterGraph} {i p : Nat} {x : Exit}
    (h : (exits ws g i)[p]? = some x) : i < g.sites.length := by
  by_contra hi
  have hnone : g.sites[i]? = none := List.getElem?_eq_none (Nat.le_of_not_lt hi)
  simp [exits, alias?, hnone] at h

/-- A step from one site to the next: the number of the exit that is taken, the key of the mount,
and the site that is reached. -/
structure Step where
  position : Nat
  key : Option String
  site : Nat
  deriving DecidableEq

/-- A walk from a root that ends with a procedure at its last site. -/
structure Visit where
  root : Nat
  steps : List Step
  position : Nat
  name : String
  kind : ProcedureKind
  line : Nat
  deriving DecidableEq

def siteAfter (i : Nat) : List Step → Nat
  | [] => i
  | s :: rest => siteAfter s.site rest

def Leads (ws : Workspace) (g : RouterGraph) : Nat → List Step → Prop
  | _, [] => True
  | i, s :: rest =>
    (exits ws g i)[s.position]? = some (.edge s.key s.site) ∧ Leads ws g s.site rest

namespace Visit

def sites (v : Visit) : List Nat := v.root :: v.steps.map Step.site

def last (v : Visit) : Nat := siteAfter v.root v.steps

def keys (v : Visit) : List String := v.steps.filterMap Step.key

def trail (v : Visit) : List Nat := v.steps.map Step.position ++ [v.position]

def found (g : RouterGraph) (names : List String) (v : Visit) : Found :=
  ⟨dotted (names ++ v.keys) v.name, v.kind, g.fileOf v.last, v.line⟩

def after (i : Nat) (position : Nat) (key : Option String) (v : Visit) : Visit :=
  { v with root := i, steps := ⟨position, key, v.root⟩ :: v.steps }

end Visit

def exitVisits (i position : Nat) (onward : Nat → List Visit) : Exit → List Visit
  | .item name kind line => [⟨i, [], position, name, kind, line⟩]
  | .edge key child => (onward child).map (Visit.after i position key)

theorem exitVisits_trail {i position : Nat} {onward : Nat → List Visit} {x : Exit} {v : Visit}
    (h : v ∈ exitVisits i position onward x) : ∃ rest, v.trail = position :: rest := by
  cases x with
  | item name kind line =>
    obtain rfl := List.mem_singleton.1 h
    exact ⟨[], rfl⟩
  | edge key child =>
    obtain ⟨u, _, rfl⟩ := List.mem_map.1 h
    exact ⟨u.trail, rfl⟩

/-- The walks from a site that do not come to a site of `walk`, in the order in which they are
found. -/
def visitsFrom (ws : Workspace) (g : RouterGraph) (walk : List Nat) (i : Nat) : List Visit :=
  if _h : i < g.sites.length ∧ i ∉ walk then
    (exits ws g i).zipIdx.flatMap fun (x, position) =>
      exitVisits i position (fun child => visitsFrom ws g (i :: walk) child) x
  else []
termination_by (g.unvisited walk).length
decreasing_by exact unvisited_cons_lt g _h.1 _h.2

variable {ws : Workspace} {g : RouterGraph}

theorem found_after (names : List String) (i position : Nat) (key : Option String) (v : Visit) :
    (v.after i position key).found g names = v.found g (names ++ key.toList) := by
  cases key with
  | none => simp [Visit.found, Visit.after, Visit.keys, Visit.last, siteAfter]
  | some key => simp [Visit.found, Visit.after, Visit.keys, Visit.last, siteAfter]

/-- The procedures under a site are those at the ends of the walks from it. -/
theorem emit_eq_visits (walk : List Nat) (names : List String) (i : Nat) :
    emit ws g walk names i = (visitsFrom ws g walk i).map (Visit.found g names) := by
  induction walk, i using visitsFrom.induct g generalizing names with
  | case1 walk i h ih =>
    rw [emit_eq_exits, visitsFrom, if_pos h, dif_pos h, List.map_flatMap]
    conv_lhs => rw [← List.zipIdx_map_fst 0 (exits ws g i), List.flatMap_map]
    congr 1
    funext ⟨x, position⟩
    cases x with
    | item name kind line =>
      simp [exitFound, exitVisits, Visit.found, Visit.keys, Visit.last, siteAfter]
    | edge key child =>
      simp only [exitFound, exitVisits, ih child, List.map_map]
      congr 1
      funext v
      exact (found_after names i position key v).symm
  | case2 walk i h => rw [emit_eq_exits, visitsFrom, if_neg h, dif_neg h, List.map_nil]

/-- A walk takes exits that are there, repeats no site and ends with a procedure of its last
site. -/
structure Visit.Valid (ws : Workspace) (g : RouterGraph) (v : Visit) : Prop where
  leads : Leads ws g v.root v.steps
  simple : v.sites.Nodup
  ends : (exits ws g v.last)[v.position]? = some (.item v.name v.kind v.line)

theorem Visit.Valid.root_lt {v : Visit} (h : v.Valid ws g) : v.root < g.sites.length := by
  obtain ⟨root, steps, position, name, kind, line⟩ := v
  cases steps with
  | nil => exact lt_length_of_exit h.ends
  | cons s rest => exact lt_length_of_exit h.leads.1

theorem Visit.valid_after {i position : Nat} {key : Option String} {v : Visit} :
    (v.after i position key).Valid ws g ↔
      (exits ws g i)[position]? = some (.edge key v.root) ∧ i ∉ v.sites ∧ v.Valid ws g := by
  constructor
  · rintro ⟨⟨hexit, hleads⟩, hsimple, hends⟩
    obtain ⟨hi, hsimple⟩ := List.nodup_cons.1 hsimple
    exact ⟨hexit, hi, hleads, hsimple, hends⟩
  · rintro ⟨hexit, hi, hleads, hsimple, hends⟩
    exact ⟨⟨hexit, hleads⟩, List.nodup_cons.2 ⟨hi, hsimple⟩, hends⟩

theorem mem_visitsFrom {walk : List Nat} {i : Nat} {v : Visit} :
    v ∈ visitsFrom ws g walk i ↔ v.root = i ∧ v.Valid ws g ∧ ∀ j ∈ v.sites, j ∉ walk := by
  induction walk, i using visitsFrom.induct g generalizing v with
  | case1 walk i h ih =>
    rw [visitsFrom, dif_pos h]
    simp only [List.mem_flatMap, Prod.exists, List.mem_zipIdx_iff_getElem?]
    constructor
    · rintro ⟨x, position, hx, hv⟩
      cases x with
      | item name kind line =>
        obtain rfl := List.mem_singleton.1 hv
        exact ⟨rfl, ⟨trivial, by simp [Visit.sites], hx⟩, by simpa [Visit.sites] using h.2⟩
      | edge key child =>
        obtain ⟨u, hu, rfl⟩ := List.mem_map.1 hv
        obtain ⟨rfl, hvalid, havoid⟩ := (ih child).1 hu
        refine ⟨rfl, Visit.valid_after.2 ⟨hx, fun hi => ?_, hvalid⟩, ?_⟩
        · exact havoid i hi (by simp)
        · intro j hj
          rcases List.mem_cons.1 hj with rfl | hj
          · exact h.2
          · exact fun hw => havoid j hj (by simp [hw])
    · rintro ⟨rfl, hvalid, havoid⟩
      obtain ⟨root, steps, position, name, kind, line⟩ := v
      cases steps with
      | nil => exact ⟨_, position, hvalid.ends, List.mem_singleton.2 rfl⟩
      | cons s rest =>
        obtain ⟨hexit, hroot, hrest⟩ :=
          Visit.valid_after (v := ⟨s.site, rest, position, name, kind, line⟩).1 hvalid
        refine ⟨_, s.position, hexit, List.mem_map.2 ⟨_, (ih s.site).2 ⟨rfl, hrest, ?_⟩, rfl⟩⟩
        intro j hj hw
        rcases List.mem_cons.1 hw with rfl | hw
        · exact hroot hj
        · exact havoid j (List.mem_cons_of_mem _ hj) hw
  | case2 walk i h =>
    rw [visitsFrom, dif_neg h]
    refine ⟨fun hv => absurd hv (by simp), ?_⟩
    rintro ⟨rfl, hvalid, havoid⟩
    exact absurd ⟨hvalid.root_lt, havoid v.root (by simp [Visit.sites])⟩ h

theorem visitsFrom_pairwise (walk : List Nat) (i : Nat) :
    (visitsFrom ws g walk i).Pairwise fun v v' => v.trail < v'.trail := by
  induction walk, i using visitsFrom.induct g with
  | case1 walk i h ih =>
    rw [visitsFrom, dif_pos h, List.pairwise_flatMap]
    refine ⟨fun ⟨x, position⟩ _ => ?_, (zipIdx_pairwise_lt _).imp fun {a b} hlt v hv v' hv' => ?_⟩
    · cases x with
      | item name kind line => exact List.pairwise_singleton _ _
      | edge key child =>
        refine List.pairwise_map.2 ((ih child).imp fun {v v'} hlt => ?_)
        exact List.cons_lt_cons_iff.2 (.inr ⟨rfl, hlt⟩)
    -- walks through different exits differ in their first numbers
    · obtain ⟨rest, hrest⟩ := exitVisits_trail hv
      obtain ⟨rest', hrest'⟩ := exitVisits_trail hv'
      rw [hrest, hrest']
      exact List.cons_lt_cons_iff.2 (.inl hlt)
  | case2 walk i h =>
    rw [visitsFrom, dif_neg h]
    exact List.Pairwise.nil

theorem alias?_eq_some {i target : Nat} (h : g.alias? i = some target) :
    ∃ site, g.sites[i]? = some site ∧ site.procedures = [] ∧ site.mounts = [] ∧ target ≠ i := by
  unfold alias? at h
  cases hsite : g.sites[i]? with
  | none => simp [hsite] at h
  | some site =>
    simp only [hsite, Option.bind_eq_bind, Option.bind_some] at h
    split at h
    · cases h
    · rename_i hempty
      obtain ⟨callee, _, h⟩ := Option.bind_eq_some_iff.1 h
      obtain ⟨found, _, h⟩ := Option.bind_eq_some_iff.1 h
      split at h
      · cases h
      · cases h
        simp_all

theorem edge_mem_exits_of_alias {i target : Nat} (h : g.alias? i = some target) {key : Option String}
    {child : Nat} : .edge key child ∈ exits ws g i ↔ key = none ∧ child = target := by
  simp [exits, h]

theorem edge_mem_exits {i : Nat} {site : RouterSite} (halias : g.alias? i = none)
    (hsite : g.sites[i]? = some site) {key : Option String} {child : Nat} :
    .edge key child ∈ exits ws g i ↔
      ∃ m ∈ site.mounts, resolve? ws g site m.target = some (.router child) ∧ key = some m.key := by
  simp only [exits, halias, hsite, List.mem_append, List.mem_map, reduceCtorEq, and_false,
    exists_false, false_or, List.mem_filterMap]
  refine exists_congr fun m => and_congr_right fun _ => ?_
  unfold mountExit?
  split
  · rename_i c hc
    simp only [hc, Option.some.injEq, Exit.edge.injEq, Resolved.router.injEq]
    exact ⟨fun h => ⟨h.2, h.1.symm⟩, fun h => ⟨h.2.symm, h.1⟩⟩
  · rename_i hc
    simp [hc]
  · rename_i hc
    simp [hc]

theorem mem_mountedBy {i child : Nat} {site : RouterSite} (hsite : g.sites[i]? = some site) :
    child ∈ mountedBy ws g i site ↔ child ≠ i ∧ ∃ key, .edge key child ∈ exits ws g i := by
  unfold mountedBy
  cases halias : g.alias? i with
  | some target =>
    -- such a site has no mounts, so what it stands for is all that either side speaks of
    obtain ⟨site', hsite', _, hmounts, hne⟩ := alias?_eq_some halias
    obtain rfl : site = site' := Option.some.inj (hsite.symm.trans hsite')
    simp only [hmounts, List.filterMap_nil, List.nil_append, Option.toList_some,
      List.mem_singleton, edge_mem_exits_of_alias halias]
    exact ⟨fun h => ⟨h ▸ hne, none, rfl, h⟩, fun ⟨_, _, _, h⟩ => h⟩
  | none =>
    simp only [Option.toList_none, List.append_nil, List.mem_filterMap,
      edge_mem_exits halias hsite]
    constructor
    · rintro ⟨m, hm, h⟩
      split at h
      · rename_i c hc
        split at h
        · cases h
        · cases h
          exact ⟨‹_›, some m.key, m, hm, hc, rfl⟩
      · cases h
    · rintro ⟨hne, key, m, hm, hc, _⟩
      exact ⟨m, hm, by simp [hc, hne]⟩

def Unmounted (ws : Workspace) (g : RouterGraph) (i : Nat) : Prop :=
  i < g.sites.length ∧ ∀ j, j ≠ i → ∀ key, .edge key i ∉ exits ws g j

theorem mem_roots {i : Nat} : i ∈ roots ws g ↔ Unmounted ws g i := by
  simp only [roots, Unmounted, List.mem_filter, List.mem_range, Bool.not_eq_eq_eq_not,
    Bool.not_true, List.contains_eq_mem, decide_eq_false_iff_not]
  refine and_congr_right fun _ => ?_
  simp only [mounted, List.mem_flatMap, Prod.exists, List.mem_zipIdx_iff_getElem?]
  constructor
  · intro h j hne key hedge
    obtain ⟨p, hp⟩ := List.getElem?_of_mem hedge
    have hj := List.getElem?_eq_getElem (lt_length_of_exit hp)
    exact h ⟨_, j, hj, (mem_mountedBy hj).2 ⟨hne.symm, key, hedge⟩⟩
  · rintro h ⟨site, j, hj, hmem⟩
    obtain ⟨hne, key, hedge⟩ := (mem_mountedBy hj).1 hmem
    exact h j hne.symm key hedge

/-- The walks from all sites that no other site mounts or stands for. -/
def visits (ws : Workspace) (g : RouterGraph) : List Visit :=
  (roots ws g).flatMap (visitsFrom ws g [])

theorem mem_visits {v : Visit} : v ∈ visits ws g ↔ Unmounted ws g v.root ∧ v.Valid ws g := by
  simp only [visits, List.mem_flatMap, mem_roots, mem_visitsFrom]
  constructor
  · rintro ⟨_, hroot, rfl, hvalid, _⟩
    exact ⟨hroot, hvalid⟩
  · rintro ⟨hroot, hvalid⟩
    exact ⟨v.root, hroot, rfl, hvalid, by simp⟩

theorem visits_pairwise :
    (visits ws g).Pairwise fun v v' => v.root :: v.trail < v'.root :: v'.trail := by
  rw [visits, List.pairwise_flatMap]
  constructor
  · intro i _
    refine (visitsFrom_pairwise [] i).imp_of_mem fun {v v'} hv hv' hlt => ?_
    rw [(mem_visitsFrom.1 hv).1, (mem_visitsFrom.1 hv').1]
    exact List.cons_lt_cons_iff.2 (.inr ⟨rfl, hlt⟩)
  · refine (List.pairwise_lt_range.filter _).imp fun {i j} hlt v hv v' hv' => ?_
    rw [(mem_visitsFrom.1 hv).1, (mem_visitsFrom.1 hv').1]
    exact List.cons_lt_cons_iff.2 (.inl hlt)

def nameOf (g : RouterGraph) (i : Nat) : String := ((g.sites[i]?).map (·.name)).getD ""

def Visit.routed (g : RouterGraph) (v : Visit) : Found := v.found g [routerName (g.nameOf v.root)]

theorem procedures_eq_visits : g.procedures ws = (visits ws g).map (Visit.routed g) := by
  simp only [procedures, visits, List.map_flatMap, emit_eq_visits]
  refine List.flatMap_congr fun i _ => List.map_congr_left fun v hv => ?_
  rw [Visit.routed, (mem_visitsFrom.1 hv).1, nameOf]

end RouterGraph

open RouterGraph

def routerGraph (ws : Workspace) (o : RpcOptions) : RouterGraph :=
  let m := (Matcher.ofOptions o).value
  ⟨ws.project.files.flatMap (sitesOf m), ws.project.files.flatMap (procedureVarsOf m)⟩

theorem reportSites_value (m : Matcher) (f : SourceFile) :
    (reportSites m f).value = sitesOf m f := by
  simp [reportSites]

theorem survey_value (ws : Workspace) (o : RpcOptions) (c : Classifier) :
    (survey ws o c).value = ((routerGraph ws o).procedures ws).map (handler ws o.endpoint c) := by
  simp [survey, routerGraph, reportSites_value]

@[simp] theorem handler_name (ws : Workspace) (endpoint : String) (c : Classifier) (f : Found) :
    (handler ws endpoint c f).name = some f.name := by
  simp only [handler]
  split <;> rfl

@[simp] theorem handler_file (ws : Workspace) (endpoint : String) (c : Classifier) (f : Found) :
    (handler ws endpoint c f).file = ws.path f.file := by
  simp only [handler]
  split <;> rfl

/-- A survey has one handler for each walk without a repeated site from a site that no other one
mounts or stands for to a procedure, in the order of a visit that goes deep first. The name is
made of the name of the root, the keys along the walk and the name at its end. -/
theorem survey_lists_walks (ws : Workspace) (o : RpcOptions) (c : Classifier) :
    let g := routerGraph ws o
    (survey ws o c).value = (visits ws g).map (fun v => handler ws o.endpoint c (v.routed g)) ∧
      (∀ v : Visit, v ∈ visits ws g ↔ Unmounted ws g v.root ∧ v.Valid ws g) ∧
      (visits ws g).Pairwise (fun v v' => v.root :: v.trail < v'.root :: v'.trail) ∧
      ∀ v : Visit, (handler ws o.endpoint c (v.routed g)).name =
          some (".".intercalate
            (((routerName (g.nameOf v.root) :: v.keys).filter (!·.isEmpty)) ++ [v.name])) ∧
        (handler ws o.endpoint c (v.routed g)).file = ws.path (g.fileOf v.last) := by
  refine ⟨?_, fun v => mem_visits, visits_pairwise, fun v => ⟨?_, ?_⟩⟩
  · rw [survey_value, procedures_eq_visits, List.map_map]
    rfl
  · rw [handler_name]
    rfl
  · rw [handler_file]
    rfl

end RouteAtlas.Rpc
