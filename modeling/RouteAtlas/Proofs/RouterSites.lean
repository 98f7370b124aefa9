import RouteAtlas.Proofs.CallChains

set_option autoImplicit false

/-!
# The sites of a file and its router calls

Every call of a chain is visited, and each finds the same router under it. The site is made by the
one that is visited first. Here the sites of a file are held against its tree: which router calls
have one, which calls are read with it, and what it is named for. The visit is also given as one
that keeps a stack of binders, and the stack is shown to be empty again at the end.
-/
namespace RouteAtlas

open Script (Node Call Span Module)

theorem Script.Module.calls_tree (m : Module) : m.tree.calls = m.calls := by
  rw [Node.calls, Node.preorder_eq]
  rfl

namespace Rpc

/-- What a node binds: variables by a name, properties with a known key, and functions. -/
def Binder.of? : Node → Option Binder
  | .declarator _ (.ident _ name) _ _ => some (.variable name)
  | .keyValue _ key _ => key.keyName?.map .property
  | .functionDef _ (.ident _ name) _ => some (.function name)
  | _ => none

theorem Binder.inside_eq (outer : Option Binder) (n : Node) :
    Binder.inside outer n = (Binder.of? n).or outer := by
  fun_cases Binder.of? n with
  | case1 => rfl
  | case2 span key value =>
    cases hkey : key.keyName? <;> simp [Binder.inside, hkey]
  | case3 => rfl
  | case4 n hvariable hproperty hfunction =>
    unfold Binder.inside
    split
    · exact absurd rfl (hvariable _ _ _ _ _)
    · exact absurd rfl (hproperty _ _ _)
    · exact absurd rfl (hfunction _ _ _ _)
    · rfl

def binderAbove (n : Node) (p : List Nat) : Option Binder :=
  (n.above p).reverse.findSome? Binder.of?

theorem binderAbove_cons_of_child {n c : Node} {i : Nat} (h : n.children[i]? = some c)
    (p : List Nat) : binderAbove n (i :: p) = (binderAbove c p).or (Binder.of? n) := by
  rw [binderAbove, Node.above_cons_of_child h, List.reverse_cons, List.findSome?_append]
  simp [binderAbove]

theorem boundNodes_eq (outer : Option Binder) (n : Node) :
    boundNodes outer n =
      (outer, n) :: n.children.flatMap (boundNodes (Binder.inside outer n)) := by
  rw [boundNodes]
  simp [List.flatMap_subtype]

theorem boundNodes_position {outer b : Option Binder} {n x : Node}
    (h : (b, x) ∈ boundNodes outer n) :
    ∃ p, n.at? p = some x ∧ b = (binderAbove n p).or outer := by
  induction outer, n using boundNodes.induct with
  | case1 outer n ih =>
    rw [boundNodes_eq] at h
    rcases List.mem_cons.1 h with heq | h
    · cases heq
      exact ⟨[], rfl, rfl⟩
    · obtain ⟨c, hc, h⟩ := List.mem_flatMap.1 h
      obtain ⟨i, hi⟩ := List.getElem?_of_mem hc
      obtain ⟨p, hp, hb⟩ := ih c hc h
      refine ⟨i :: p, by rw [Node.at?_cons_of_child hi, hp], ?_⟩
      rw [hb, Binder.inside_eq, binderAbove_cons_of_child hi, Option.or_assoc]

def boundCallsIn (outer : Option Binder) (n : Node) : List (Option Binder × Call) :=
  (boundNodes outer n).filterMap fun (b, x) => x.asCall?.map (b, ·)

theorem boundCalls_eq (m : Module) : boundCalls m = boundCallsIn none m.tree := by
  rw [boundCallsIn, boundNodes_eq]
  rfl

theorem boundCallsIn_eq (outer : Option Binder) (n : Node) :
    boundCallsIn outer n = n.asCall?.toList.map (outer, ·) ++
      n.children.flatMap (boundCallsIn (Binder.inside outer n)) := by
  have hparts : (n.children.flatMap (boundNodes (Binder.inside outer n))).filterMap
      (fun (b, x) => x.asCall?.map (b, ·)) =
        n.children.flatMap (boundCallsIn (Binder.inside outer n)) := by
    rw [List.filterMap_flatMap]
    rfl
  rw [boundCallsIn, boundNodes_eq, List.filterMap_cons, hparts]
  cases hcall : n.asCall? <;> simp [hcall]

theorem boundCallsIn_map_snd (outer : Option Binder) (n : Node) :
    (boundCallsIn outer n).map (·.2) = n.calls := by
  induction outer, n using boundNodes.induct with
  | case1 outer n ih =>
    rw [boundCallsIn_eq, Node.calls_eq, List.map_append, List.map_flatMap]
    congr 1
    · cases n.asCall? <;> rfl
    · exact List.flatMap_congr ih

/-- A router call with the calls on top of it, the innermost first, as a visit meets them: at the
call `top`, with its binder. -/
structure RouterChain where
  router : Call
  outer : List Call
  top : Call
  binder : Option Binder

def RouterChain.site (m : Matcher) (f : SourceFile) (x : RouterChain) : RouterSite :=
  makeSite m f x.binder x.router x.outer

def routerChains (m : Matcher) : List Span → List (Option Binder × Call) → List RouterChain
  | _, [] => []
  | claimed, (binder, c) :: rest =>
    match routerOf? m c with
    | some (router, outer) =>
      if claimed.contains router.span then routerChains m claimed rest
      else ⟨router, outer, c, binder⟩ :: routerChains m (router.span :: claimed) rest
    | none => routerChains m claimed rest

theorem claimSites_eq (m : Matcher) (f : SourceFile) (claimed : List Span)
    (calls : List (Option Binder × Call)) :
    claimSites m f claimed calls = (routerChains m claimed calls).map (·.site m f) := by
  fun_induction routerChains m claimed calls <;> simp_all [claimSites, RouterChain.site]

theorem claimSites_append (m : Matcher) (f : SourceFile) (claimed : List Span)
    (calls rest : List (Option Binder × Call)) :
    claimSites m f claimed (calls ++ rest) = claimSites m f claimed calls ++
      claimSites m f (((claimSites m f claimed calls).map (·.key)).reverse ++ claimed) rest := by
  fun_induction claimSites m f claimed calls <;> simp_all [claimSites, makeSite]

/-- The router for which a call would make a site, known by its span. -/
def claim? (m : Matcher) (c : Call) : Option Span := (routerOf? m c).map (·.1.span)

section Claims

variable {m : Matcher} {claimed : List Span} {calls : List (Option Binder × Call)}

theorem routerChains_unclaimed {x : RouterChain} (h : x ∈ routerChains m claimed calls) :
    x.router.span ∉ claimed := by
  fun_induction routerChains m claimed calls with
  | case1 => cases h
  | case2 claimed b c rest router outer hrouter hclaimed ih => exact ih h
  | case3 claimed b c rest router outer hrouter hclaimed ih =>
    rcases List.mem_cons.1 h with rfl | h
    · simpa using hclaimed
    · exact fun hmem => ih h (List.mem_cons_of_mem _ hmem)
  | case4 claimed b c rest hrouter ih => exact ih h

theorem routerChains_spans_nodup (m : Matcher) (claimed : List Span)
    (calls : List (Option Binder × Call)) :
    ((routerChains m claimed calls).map (·.router.span)).Nodup := by
  fun_induction routerChains m claimed calls with
  | case1 => exact List.nodup_nil
  | case2 claimed b c rest router outer hrouter hclaimed ih => exact ih
  | case3 claimed b c rest router outer hrouter hclaimed ih =>
    refine List.nodup_cons.2 ⟨fun hmem => ?_, ih⟩
    obtain ⟨x, hx, hspan⟩ := List.mem_map.1 hmem
    exact routerChains_unclaimed hx (hspan ▸ List.mem_cons_self ..)
  | case4 claimed b c rest hrouter ih => exact ih

theorem routerChains_complete {y : Option Binder × Call} {s : Span} (hy : y ∈ calls)
    (hs : claim? m y.2 = some s) (hnew : s ∉ claimed) :
    s ∈ (routerChains m claimed calls).map (·.router.span) := by
  fun_induction routerChains m claimed calls with
  | case1 => cases hy
  | case2 claimed b c rest router outer hrouter hclaimed ih =>
    rcases List.mem_cons.1 hy with rfl | hy
    · obtain rfl : router.span = s := by simpa [claim?, hrouter] using hs
      exact absurd (by simpa using hclaimed) hnew
    · exact ih hy hnew
  | case3 claimed b c rest router outer hrouter hclaimed ih =>
    rw [List.map_cons, List.mem_cons]
    by_cases hsame : s = router.span
    · exact .inl hsame
    · rcases List.mem_cons.1 hy with rfl | hy
      · exact absurd (by simpa [claim?, hrouter] using hs.symm) hsame
      · exact .inr (ih hy (by simp [hsame, hnew]))
  | case4 claimed b c rest hrouter ih =>
    rcases List.mem_cons.1 hy with rfl | hy
    · simp [claim?, hrouter] at hs
    · exact ih hy hnew

/-- A site is made at the first call that has the router under it. -/
theorem routerChains_first {x : RouterChain} (h : x ∈ routerChains m claimed calls) :
    routerOf? m x.top = some (x.router, x.outer) ∧
      calls.find? (fun y => claim? m y.2 == some x.router.span) = some (x.binder, x.top) := by
  fun_induction routerChains m claimed calls with
  | case1 => cases h
  | case2 claimed b c rest router outer hrouter hclaimed ih =>
    have hne : router.span ≠ x.router.span := by
      intro heq
      exact routerChains_unclaimed h (heq ▸ by simpa using hclaimed)
    rw [List.find?_cons_of_neg (by simpa [claim?, hrouter] using hne)]
    exact ih h
  | case3 claimed b c rest router outer hrouter hclaimed ih =>
    rcases List.mem_cons.1 h with rfl | h
    · exact ⟨hrouter, List.find?_cons_of_pos (by simp [claim?, hrouter])⟩
    · have hne : router.span ≠ x.router.span := by
        intro heq
        exact routerChains_unclaimed h (heq ▸ List.mem_cons_self ..)
      rw [List.find?_cons_of_neg (by simpa [claim?, hrouter] using hne)]
      exact ih h
  | case4 claimed b c rest hrouter ih =>
    rw [List.find?_cons_of_neg (by simp [claim?, hrouter])]
    exact ih h

end Claims

/-- A router call on a chain under which the chain has no other. -/
structure InnermostRouter (m : Matcher) (c r : Call) : Prop where
  onChain : r ∈ chain c
  router : m.isRouterCall r
  innermost : ∀ d ∈ innerCalls r.callee, ¬m.isRouterCall d

theorem innermostRouter_iff {m : Matcher} {c r : Call} :
    InnermostRouter m c r ↔ ∃ outer, routerOf? m c = some (r, outer) := by
  simp only [routerOf?_eq_some_iff]
  constructor
  · rintro ⟨hr, hrouter, hinner⟩
    obtain ⟨above, habove⟩ := exists_append_chain hr
    exact ⟨above.reverse, by rw [List.reverse_reverse, habove], hrouter, hinner⟩
  · rintro ⟨outer, hchain, hrouter, hinner⟩
    refine ⟨?_, hrouter, hinner⟩
    rw [hchain]
    exact List.mem_append_right _ (List.mem_cons_self ..)

section Tree

variable {m : Matcher} {n : Node} (hspans : (n.calls.map Call.span).Nodup)
include hspans

theorem claim?_eq_span_iff {c r : Call} (hc : c ∈ n.calls) (hrouter : m.isRouterCall r)
    (hr : r ∈ n.calls) (hinner : ∀ d ∈ innerCalls r.callee, ¬m.isRouterCall d) :
    claim? m c = some r.span ↔ r ∈ chain c := by
  constructor
  · intro h
    obtain ⟨⟨r', outer⟩, hrouterOf, hspan⟩ := Option.map_eq_some_iff.1 h
    have hr' : r' ∈ chain c := (innermostRouter_iff.2 ⟨outer, hrouterOf⟩).onChain
    obtain rfl : r' = r := List.inj_on_of_nodup_map hspans (mem_calls_of_mem_chain hc hr') hr hspan
    exact hr'
  · intro h
    obtain ⟨outer, houter⟩ := innermostRouter_iff.1 ⟨h, hrouter, hinner⟩
    simp [claim?, houter]

theorem mem_outer_iff {t r : Call} {outer : List Call} (ht : routerOf? m t = some (r, outer))
    (hfirst : n.calls.find? (fun c => claim? m c == some r.span) = some t) {c : Call} :
    c ∈ outer ↔ c ∈ n.calls ∧ r ∈ innerCalls c.callee := by
  obtain ⟨hchain, hrouter, hinner⟩ := routerOf?_eq_some_iff.1 ht
  have htn : t ∈ n.calls := List.mem_of_find?_eq_some hfirst
  have hr : r ∈ chain t := (innermostRouter_iff.2 ⟨outer, ht⟩).onChain
  constructor
  · intro hc
    have hct : c ∈ chain t := by
      rw [hchain]
      exact List.mem_append_left _ (List.mem_reverse.2 hc)
    exact ⟨mem_calls_of_mem_chain htn hct, mem_innerCalls_of_above hchain hc⟩
  · rintro ⟨hc, hbelow⟩
    have hclaim : ∀ d ∈ n.calls, (claim? m d == some r.span) = true ↔ r ∈ chain d := by
      intro d hd
      rw [beq_iff_eq]
      exact claim?_eq_span_iff hspans hd hrouter (mem_calls_of_mem_chain htn hr) hinner
    have hct : c ∈ chain t :=
      mem_chain_of_find? hspans.of_map hclaim hfirst hc (List.mem_cons_of_mem _ hbelow)
    rw [hchain] at hct
    rcases List.mem_append.1 hct with hct | hct
    · exact List.mem_reverse.1 hct
    -- a call of the router's own chain is not on top of the router
    · have hle := Node.sizeOf_le_of_mem_preorder (Node.mem_calls.1 (chain_subset_calls r hct))
      have hlt := sizeOf_lt_of_mem_innerCalls hbelow
      omega

end Tree

/-- The state of a visit: the binders around what is visited, the innermost first, the routers that
have been claimed, and the sites. -/
structure Visitor where
  binders : List Binder
  claimed : List Span
  sites : List RouterSite

namespace Visitor

def claim (m : Matcher) (f : SourceFile) (v : Visitor) (c : Call) : Visitor :=
  match routerOf? m c with
  | some (router, outer) =>
    if v.claimed.contains router.span then v
    else
      { v with
        claimed := router.span :: v.claimed
        sites := v.sites ++ [makeSite m f v.binders.head? router outer] }
  | none => v

def push (v : Visitor) (b : Option Binder) : Visitor :=
  { v with binders := b.toList ++ v.binders }

def pop (v : Visitor) (b : Option Binder) : Visitor :=
  { v with binders := v.binders.drop b.toList.length }

/-- The visit of a node: a call claims its router, and what the node binds is on the stack as long
as its parts are visited. -/
def visit (m : Matcher) (f : SourceFile) (v : Visitor) (n : Node) : Visitor :=
  let entered := (n.asCall?.toList.foldl (claim m f) v).push (Binder.of? n)
  (n.children.attach.foldl (fun v ⟨c, _⟩ => visit m f v c) entered).pop (Binder.of? n)
termination_by sizeOf n
decreasing_by exact Node.sizeOf_lt_of_mem_children ‹_›

theorem visit_eq_foldl (m : Matcher) (f : SourceFile) (v : Visitor) (n : Node) :
    visit m f v n =
      (n.children.foldl (visit m f)
        ((n.asCall?.toList.foldl (claim m f) v).push (Binder.of? n))).pop (Binder.of? n) := by
  rw [visit]
  simp [List.foldl_subtype]

def after (m : Matcher) (f : SourceFile) (v : Visitor) (calls : List (Option Binder × Call)) :
    Visitor :=
  let new := claimSites m f v.claimed calls
  { v with claimed := (new.map (·.key)).reverse ++ v.claimed, sites := v.sites ++ new }

section Run

variable {m : Matcher} {f : SourceFile}

theorem after_nil (v : Visitor) : v.after m f [] = v := by
  simp [after, claimSites]

theorem after_append (v : Visitor) (calls rest : List (Option Binder × Call)) :
    v.after m f (calls ++ rest) = (v.after m f calls).after m f rest := by
  simp [after, claimSites_append]

theorem claim_eq (v : Visitor) (c : Call) :
    v.claim m f c = v.after m f [(v.binders.head?, c)] := by
  cases hrouter : routerOf? m c with
  | none => simp [claim, after, claimSites, hrouter]
  | some found =>
    by_cases hclaimed : found.1.span ∈ v.claimed <;>
      simp [claim, after, claimSites, makeSite, hrouter, hclaimed]

theorem claim_calls_eq (v : Visitor) (c : Option Call) :
    c.toList.foldl (claim m f) v = v.after m f (c.toList.map (v.binders.head?, ·)) := by
  cases c with
  | none => exact (after_nil v).symm
  | some c => exact claim_eq v c

theorem head?_push (v : Visitor) (n : Node) :
    (v.push (Binder.of? n)).binders.head? = Binder.inside v.binders.head? n := by
  rw [Binder.inside_eq, push]
  cases Binder.of? n <;> rfl

theorem pop_after_push (v : Visitor) (b : Option Binder) (calls : List (Option Binder × Call)) :
    ((v.push b).after m f calls).pop b = v.after m f calls := by
  simp [push, pop, after]

theorem foldl_visit {nodes : List Node} (h : ∀ n ∈ nodes, ∀ v : Visitor,
      v.visit m f n = v.after m f (boundCallsIn v.binders.head? n)) (v : Visitor) :
    nodes.foldl (visit m f) v = v.after m f (nodes.flatMap (boundCallsIn v.binders.head?)) := by
  induction nodes generalizing v with
  | nil => exact (after_nil v).symm
  | cons n nodes ih =>
    rw [List.foldl_cons, h n (List.mem_cons_self ..), List.flatMap_cons, after_append]
    exact ih (fun n hn => h n (List.mem_cons_of_mem _ hn)) _

/-- A visit adds the sites of the calls of the tree and leaves the stack as it was. -/
theorem visit_eq (v : Visitor) (n : Node) :
    v.visit m f n = v.after m f (boundCallsIn v.binders.head? n) := by
  induction n using Script.Node.preorder.induct generalizing v with
  | case1 n ih =>
    rw [visit_eq_foldl, foldl_visit ih, pop_after_push, claim_calls_eq, head?_push, boundCallsIn_eq,
      after_append]
    rfl

end Run

end Visitor

def visitModule (m : Matcher) (f : SourceFile) : Visitor :=
  f.module.nodes.foldl (Visitor.visit m f) ⟨[], [], []⟩

theorem visitModule_eq (m : Matcher) (f : SourceFile) :
    visitModule m f = Visitor.after m f ⟨[], [], []⟩ (boundCalls f.module) := by
  rw [visitModule, Visitor.foldl_visit fun n _ v => Visitor.visit_eq v n, boundCalls_eq,
    boundCallsIn_eq]
  rfl

section Sites

variable {m : Matcher} {md : Module} {x : RouterChain}

theorem boundCalls_map_snd (md : Module) : (boundCalls md).map (·.2) = md.tree.calls := by
  rw [boundCalls_eq, boundCallsIn_map_snd]

theorem boundCalls_position {b : Option Binder} {c : Call} (h : (b, c) ∈ boundCalls md) :
    ∃ p, md.tree.at? p = some c.toNode ∧ b = binderAbove md.tree p := by
  rw [boundCalls_eq] at h
  obtain ⟨⟨b', n⟩, hn, heq⟩ := List.mem_filterMap.1 h
  obtain ⟨c', hc, heq⟩ := Option.map_eq_some_iff.1 heq
  cases heq
  obtain ⟨p, hp, hb⟩ := boundNodes_position hn
  rw [Option.or_none] at hb
  exact ⟨p, by rw [hp, Node.asCall?_eq_some.1 hc], hb⟩

theorem top_visited_first (h : x ∈ routerChains m [] (boundCalls md)) :
    md.tree.calls.find? (fun c => claim? m c == some x.router.span) = some x.top := by
  rw [← boundCalls_map_snd, List.find?_map]
  exact congrArg (Option.map (·.2)) (routerChains_first h).2

theorem top_mem_calls (h : x ∈ routerChains m [] (boundCalls md)) : x.top ∈ md.tree.calls :=
  List.mem_of_find?_eq_some (top_visited_first h)

theorem router_innermost (h : x ∈ routerChains m [] (boundCalls md)) :
    InnermostRouter m x.top x.router :=
  innermostRouter_iff.2 ⟨x.outer, (routerChains_first h).1⟩

theorem mem_routers_iff (hspans : (md.tree.calls.map Call.span).Nodup) {r : Call} :
    r ∈ (routerChains m [] (boundCalls md)).map RouterChain.router ↔
      ∃ c ∈ md.tree.calls, InnermostRouter m c r := by
  constructor
  · intro h
    obtain ⟨x, hx, rfl⟩ := List.mem_map.1 h
    exact ⟨x.top, top_mem_calls hx, router_innermost hx⟩
  · rintro ⟨c, hc, hr⟩
    obtain ⟨outer, houter⟩ := innermostRouter_iff.1 hr
    have hmem := hc
    rw [← boundCalls_map_snd] at hmem
    obtain ⟨y, hy, rfl⟩ := List.mem_map.1 hmem
    have hspan : r.span ∈ (routerChains m [] (boundCalls md)).map (·.router.span) :=
      routerChains_complete hy (by simp [claim?, houter]) (by simp)
    obtain ⟨x, hx, hspan⟩ := List.mem_map.1 hspan
    have hrouter := mem_calls_of_mem_chain (top_mem_calls hx) (router_innermost hx).onChain
    have heq : x.router = r :=
      List.inj_on_of_nodup_map hspans hrouter (mem_calls_of_mem_chain hc hr.onChain) hspan
    exact List.mem_map.2 ⟨x, hx, heq⟩

end Sites

/-- The sites of a file are one to one with the router calls that are the innermost of a chain,
wherever they stand. A site is read from the router and all calls on top of it, the innermost first,
and is named for the innermost binder around them. A visit with a stack of binders finds the same
sites and leaves the stack empty. -/
theorem router_sites_one_to_one (m : Matcher) (f : SourceFile)
    (hspans : (f.module.calls.map Call.span).Nodup) :
    (∃ chains : List RouterChain, sitesOf m f = chains.map (·.site m f) ∧
      (chains.map RouterChain.router).Nodup ∧
      (∀ r, r ∈ chains.map RouterChain.router ↔ ∃ c ∈ f.module.calls, InnermostRouter m c r) ∧
      ∀ x ∈ chains, chain x.top = x.outer.reverse ++ chain x.router ∧
        (∀ c, c ∈ x.outer ↔ c ∈ f.module.calls ∧ x.router ∈ innerCalls c.callee) ∧
        ∃ p, (∀ q, f.module.tree.at? q = some x.top.toNode ↔ q = p) ∧
          ((x.site m f).name, (x.site m f).binding) =
            siteName (f.lineOf x.router.span) (binderAbove f.module.tree p)) ∧
    (visitModule m f).sites = sitesOf m f ∧ (visitModule m f).binders = [] := by
  rw [← Module.calls_tree] at hspans ⊢
  have hvisit := visitModule_eq m f
  refine ⟨⟨routerChains m [] (boundCalls f.module), claimSites_eq m f [] _, ?_,
    fun r => mem_routers_iff hspans, ?_⟩, by rw [hvisit]; rfl, by rw [hvisit]; rfl⟩
  · have hnodup := routerChains_spans_nodup m [] (boundCalls f.module)
    refine List.Nodup.of_map Call.span ?_
    rwa [List.map_map]
  · intro x hx
    obtain ⟨hrouterOf, hfirst⟩ := routerChains_first hx
    obtain ⟨p, hp, hbinder⟩ := boundCalls_position (List.mem_of_find?_eq_some hfirst)
    refine ⟨(routerOf?_eq_some_iff.1 hrouterOf).1, fun c => ?_, p, fun q => ⟨fun hq => ?_, ?_⟩, ?_⟩
    · exact mem_outer_iff hspans hrouterOf (top_visited_first hx)
    · exact Node.position_unique hspans.of_map hq hp
    · rintro rfl
      exact hp
    · rw [← hbinder]
      rfl

def chainedRouters : Disk :=
  ⟨[], .dir [("p", .dir [("a.ts", .file (String.toUTF8 ("const app = (router(\x7b a: router(\x7b\x7d)" ++
    " \x7d) as any).router().query('x', () => 1)\nrouter(\x7b\x7d)")))])]⟩

theorem chained_routers_found :
    let m := (Matcher.ofOptions {}).value
    ∃ f ∈ (Project.loadFrom chainedRouters ["p"]).value.files,
      (f.module.calls.map Call.span).Nodup ∧
      (sitesOf m f).map (fun s => (s.name, s.binding)) =
        [("app", some "app"), ("a", none), ("router@2", none)] ∧
      (∃ chains : List RouterChain, sitesOf m f = chains.map (·.site m f) ∧
        ∀ r, r ∈ chains.map RouterChain.router ↔ ∃ c ∈ f.module.calls, InnermostRouter m c r) ∧
      (visitModule m f).binders = [] := by
  intro m
  have hfile : (Project.loadFrom chainedRouters ["p"]).value.files.head?.map (fun f =>
      (decide (f.module.calls.map Call.span).Nodup, (sitesOf m f).map fun s => (s.name, s.binding))) =
        some (true, [("app", some "app"), ("a", none), ("router@2", none)]) := by decide +kernel
  obtain ⟨f, hf, heq⟩ := Option.map_eq_some_iff.1 hfile
  obtain ⟨hspans, hnames⟩ := Prod.mk.inj heq
  have hnodup := of_decide_eq_true hspans
  obtain ⟨⟨chains, hsites, _, hrouters, _⟩, _, hstack⟩ := router_sites_one_to_one m f hnodup
  exact ⟨f, List.mem_of_head? hf, hnodup, hnames, ⟨chains, hsites, hrouters⟩, hstack⟩

end Rpc

end RouteAtlas
