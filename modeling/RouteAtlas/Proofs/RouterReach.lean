import Mathlib.Data.Fintype.EquivFin
import Mathlib.Logic.Relation
import RouteAtlas.Proofs.RouterWalks

set_option autoImplicit false

namespace RouteAtlas.Rpc

open Relation (ReflTransGen TransGen)

namespace RouterGraph

variable {ws : Workspace} {g : RouterGraph}

def Mounts (ws : Workspace) (g : RouterGraph) (i j : Nat) : Prop :=
  ∃ key, .edge key j ∈ exits ws g i

/-- A site that can be reached from one that no other site mounts or stands for. -/
def Reachable (ws : Workspace) (g : RouterGraph) (s : Nat) : Prop :=
  ∃ r, Unmounted ws g r ∧ ReflTransGen (Mounts ws g) r s

theorem Leads.reaches {i : Nat} {steps : List Step} (h : Leads ws g i steps) :
    ReflTransGen (Mounts ws g) i (siteAfter i steps) := by
  induction steps generalizing i with
  | nil => exact .refl
  | cons s rest ih => exact .head ⟨s.key, List.mem_of_getElem? h.1⟩ (ih h.2)

theorem Leads.cut {i j : Nat} {steps : List Step} (h : Leads ws g j steps)
    (hi : i ∈ j :: steps.map Step.site) :
    ∃ rest, Leads ws g i rest ∧ siteAfter i rest = siteAfter j steps ∧
      i :: rest.map Step.site <:+ j :: steps.map Step.site := by
  induction steps generalizing j with
  | nil =>
    obtain rfl : i = j := by simpa using hi
    exact ⟨[], h, rfl, List.suffix_refl _⟩
  | cons s rest ih =>
    by_cases hij : i = j
    · subst hij
      exact ⟨s :: rest, h, rfl, List.suffix_refl _⟩
    · have hi' : i ∈ s.site :: rest.map Step.site := by simpa [hij] using hi
      obtain ⟨steps, hleads, hend, hsuffix⟩ := ih h.2 hi'
      exact ⟨steps, hleads, hend, hsuffix.trans (List.suffix_cons _ _)⟩

/-- What can be reached can be reached without repeating a site. -/
theorem exists_simple_steps {i s : Nat} (h : ReflTransGen (Mounts ws g) i s) :
    ∃ steps, Leads ws g i steps ∧ siteAfter i steps = s ∧ (i :: steps.map Step.site).Nodup := by
  induction h using ReflTransGen.head_induction_on with
  | refl => exact ⟨[], trivial, rfl, by simp⟩
  | @head i j hij _ ih =>
    obtain ⟨steps, hleads, hend, hsimple⟩ := ih
    by_cases hi : i ∈ j :: steps.map Step.site
    · obtain ⟨rest, hleads', hend', hsuffix⟩ := hleads.cut hi
      exact ⟨rest, hleads', hend'.trans hend, hsimple.sublist hsuffix.sublist⟩
    · obtain ⟨key, hkey⟩ := hij
      obtain ⟨position, hposition⟩ := List.getElem?_of_mem hkey
      exact ⟨⟨position, key, j⟩ :: steps, ⟨hposition, hleads⟩, hend, List.nodup_cons.2 ⟨hi, hsimple⟩⟩

theorem exit_of_procedure {s k : Nat} {site : RouterSite} {p : Procedure}
    (hs : g.sites[s]? = some site) (hp : site.procedures[k]? = some p) :
    (exits ws g s)[k]? = some (.item p.name p.kind p.line) := by
  have halias : g.alias? s = none := by
    by_contra h
    obtain ⟨target, htarget⟩ := Option.ne_none_iff_exists'.1 h
    obtain ⟨site', hs', hempty, _⟩ := alias?_eq_some htarget
    obtain rfl : site = site' := Option.some.inj (hs.symm.trans hs')
    simp [hempty] at hp
  have hk : k < site.procedures.length := (List.getElem?_eq_some_iff.1 hp).1
  simp only [exits, halias, hs]
  rw [List.getElem?_append_left (by simpa using hk), List.getElem?_map, hp]
  rfl

/-- Procedure number `k` of a site is what some walk ends with. -/
def Shows (ws : Workspace) (g : RouterGraph) (s k : Nat) (p : Procedure) : Prop :=
  ∃ v ∈ visits ws g, v.last = s ∧ v.position = k ∧ v.name = p.name ∧ v.kind = p.kind ∧
    v.line = p.line

theorem reachable_last {v : Visit} (hv : v ∈ visits ws g) : Reachable ws g v.last := by
  obtain ⟨hroot, hvalid⟩ := mem_visits.1 hv
  exact ⟨v.root, hroot, hvalid.leads.reaches⟩

theorem Reachable.shows {s k : Nat} {site : RouterSite} {p : Procedure} (h : Reachable ws g s)
    (hs : g.sites[s]? = some site) (hp : site.procedures[k]? = some p) : Shows ws g s k p := by
  obtain ⟨r, hroot, hreach⟩ := h
  obtain ⟨steps, hleads, hend, hsimple⟩ := exists_simple_steps hreach
  refine ⟨⟨r, steps, k, p.name, p.kind, p.line⟩, mem_visits.2 ⟨hroot, hleads, hsimple, ?_⟩, hend,
    rfl, rfl, rfl, rfl⟩
  change (exits ws g (siteAfter r steps))[k]? = _
  rw [hend, exit_of_procedure hs hp]

def LiesAbove (ws : Workspace) (g : RouterGraph) : Nat → Nat → Prop :=
  TransGen fun i j => i ≠ j ∧ Mounts ws g i j

/-- Mounts of other sites do not go round in circles. -/
def Acyclic (ws : Workspace) (g : RouterGraph) : Prop := ∀ i, ¬LiesAbove ws g i i

/-- Sites are finitely many, so going from a site to those above it comes to an end. -/
theorem Acyclic.wellFounded (h : Acyclic ws g) :
    WellFounded fun i j : Fin g.sites.length => LiesAbove ws g i j := by
  have : IsTrans (Fin g.sites.length) fun i j => LiesAbove ws g i j :=
    ⟨fun _ _ _ => TransGen.trans⟩
  have : Std.Irrefl fun i j : Fin g.sites.length => LiesAbove ws g i j := ⟨fun i => h i⟩
  exact Finite.wellFounded_of_trans_of_irrefl _

theorem Acyclic.reachable (h : Acyclic ws g) (s : Fin g.sites.length) : Reachable ws g s := by
  induction s using h.wellFounded.induction with
  | _ s ih =>
    by_cases hroot : Unmounted ws g s
    · exact ⟨s, hroot, .refl⟩
    -- a site above this one is reachable already
    · obtain ⟨j, hne, key, hedge⟩ : ∃ j : Nat, j ≠ s ∧ ∃ key, .edge key s.val ∈ exits ws g j := by
        simpa [Unmounted] using hroot
      obtain ⟨position, hposition⟩ := List.getElem?_of_mem hedge
      obtain ⟨r, hr, hreach⟩ :=
        ih ⟨j, lt_length_of_exit hposition⟩ (.single ⟨hne, key, hedge⟩)
      exact ⟨r, hr, hreach.tail ⟨key, hedge⟩⟩

end RouterGraph

open RouterGraph

/-- The procedures of a site are all routed through it when it can be reached, and none of them
otherwise. Where mounts do not go round in circles all procedures are routed. -/
theorem procedures_routed_iff_reachable (ws : Workspace) (o : RpcOptions) (c : Classifier)
    (s : Nat) (site : RouterSite) (hs : (routerGraph ws o).sites[s]? = some site)
    (hne : site.procedures ≠ []) :
    let g := routerGraph ws o
    (survey ws o c).value = (visits ws g).map (fun v => handler ws o.endpoint c (v.routed g)) ∧
      ((∀ k p, site.procedures[k]? = some p → Shows ws g s k p) ↔ Reachable ws g s) ∧
      (¬Reachable ws g s → ∀ v ∈ visits ws g, v.last ≠ s) ∧
      (Acyclic ws g → ∀ k p, site.procedures[k]? = some p → Shows ws g s k p) := by
  refine ⟨?_, ⟨fun h => ?_, fun h k p hp => h.shows hs hp⟩, fun h v hv heq => ?_,
    fun h k p hp => (h.reachable ⟨s, (List.getElem?_eq_some_iff.1 hs).1⟩).shows hs hp⟩
  · rw [survey_value, procedures_eq_visits, List.map_map]
    rfl
  · obtain ⟨p, hp⟩ := List.exists_mem_of_ne_nil _ hne
    obtain ⟨k, hk⟩ := List.getElem?_of_mem hp
    obtain ⟨v, hv, hlast, _⟩ := h k p hk
    exact hlast ▸ reachable_last hv
  · exact h (heq ▸ reachable_last hv)

def mutualMounts : Disk :=
  ⟨[], .dir [("p", .dir [("a.ts", .file (String.toUTF8 ("const a = router().query('x')" ++
    ".merge('b', b), b = router().query('y').merge('a', a), c = router().merge('', a)")))])]⟩

theorem mutual_mounts_routed :
    let ws := Workspace.mk mutualMounts (Project.loadFrom mutualMounts ["p"]).value
    let g := routerGraph ws {}
    ∃ site, g.sites[1]? = some site ∧ site.procedures ≠ [] ∧
      ((∀ k p, site.procedures[k]? = some p → Shows ws g 1 k p) ↔ Reachable ws g 1) := by
  intro ws g
  have hcount : g.sites[1]?.map (·.procedures.length) = some 1 := by decide +kernel
  obtain ⟨site, hs, hlength⟩ := Option.map_eq_some_iff.1 hcount
  have hne : site.procedures ≠ [] := by
    intro hempty
    simp [hempty] at hlength
  exact ⟨site, hs, hne, (procedures_routed_iff_reachable ws {} .kind 1 site hs hne).2.1⟩

end RouteAtlas.Rpc
