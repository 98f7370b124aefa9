import Mathlib.Data.List.Nodup
import Mathlib.Data.List.TakeWhile
import RouteAtlas.Proofs.SyntaxParts

set_option autoImplicit false

namespace RouteAtlas.Script

def Node.calls (n : Node) : List Call := n.preorder.filterMap Node.asCall?

namespace Node

theorem calls_eq (n : Node) : n.calls = n.asCall?.toList ++ n.children.flatMap calls := by
  have hparts : (n.children.flatMap preorder).filterMap asCall? = n.children.flatMap calls := by
    rw [List.filterMap_flatMap]
    rfl
  rw [calls, preorder_eq, List.filterMap_cons, hparts]
  cases n.asCall? <;> rfl

theorem mem_calls {n : Node} {c : Call} : c ∈ n.calls ↔ c.toNode ∈ n.preorder := by
  constructor
  · intro h
    obtain ⟨x, hx, hc⟩ := List.mem_filterMap.1 h
    rwa [← asCall?_eq_some.1 hc]
  · exact fun h => List.mem_filterMap.2 ⟨c.toNode, h, rfl⟩

theorem calls_subset_of_mem {n x : Node} (h : x ∈ n.preorder) : x.calls ⊆ n.calls := by
  intro c hc
  rw [mem_calls] at hc ⊢
  exact preorder_subset_of_mem h hc

theorem calls_subset_of_child {n x : Node} (h : x ∈ n.children) : x.calls ⊆ n.calls :=
  calls_subset_of_mem (child_mem_preorder h)

theorem sizeOf_le_of_mem_preorder {n x : Node} (h : x ∈ n.preorder) : sizeOf x ≤ sizeOf n := by
  induction n using preorder.induct with
  | case1 n ih =>
    rw [preorder_eq] at h
    rcases List.mem_cons.1 h with rfl | h
    · exact Nat.le_refl _
    · obtain ⟨c, hc, hx⟩ := List.mem_flatMap.1 h
      have hle := ih c hc hx
      have hlt := sizeOf_lt_of_mem_children hc
      omega

theorem mem_preorder_of_at? {n x : Node} {p : List Nat} (h : n.at? p = some x) :
    x ∈ n.preorder := by
  induction p generalizing n with
  | nil =>
    cases h
    exact self_mem_preorder _
  | cons i p ih =>
    obtain ⟨c, hc, hx⟩ := Option.bind_eq_some_iff.1 h
    exact preorder_subset_of_mem (child_mem_preorder (List.mem_of_getElem? hc)) (ih hx)

theorem ne_of_at?_cons {n x : Node} {i : Nat} {p : List Nat} (h : n.at? (i :: p) = some x) :
    n ≠ x := by
  obtain ⟨c, hc, hx⟩ := Option.bind_eq_some_iff.1 h
  have hle := sizeOf_le_of_mem_preorder (mem_preorder_of_at? hx)
  have hlt := sizeOf_lt_of_mem_children (List.mem_of_getElem? hc)
  rintro rfl
  omega

section Distinct

variable {n : Node} (h : n.calls.Nodup)
include h

theorem calls_nodup_of_child {x : Node} (hx : x ∈ n.children) : x.calls.Nodup := by
  rw [calls_eq, List.nodup_append] at h
  exact (List.nodup_flatMap.1 h.2.1).1 x hx

theorem part_number_unique {x y : Node} {i j : Nat} (hx : n.children[i]? = some x)
    (hy : n.children[j]? = some y) {c : Call} (hcx : c ∈ x.calls) (hcy : c ∈ y.calls) : i = j := by
  rw [calls_eq, List.nodup_append] at h
  have hdisjoint := List.pairwise_iff_getElem.1 (List.nodup_flatMap.1 h.2.1).2
  obtain ⟨hi, rfl⟩ := List.getElem?_eq_some_iff.1 hx
  obtain ⟨hj, rfl⟩ := List.getElem?_eq_some_iff.1 hy
  rcases Nat.lt_trichotomy i j with hlt | heq | hlt
  · exact absurd hcy (hdisjoint i j hi hj hlt hcx)
  · exact heq
  · exact absurd hcx (hdisjoint j i hj hi hlt hcy)

theorem mem_calls_of_child {x : Node} (hx : x ∈ n.children) {c r : Call} (hr : r ∈ x.calls)
    (hc : c ∈ n.calls) (hrc : r ∈ c.toNode.calls) (hn : n ≠ c.toNode) : c ∈ x.calls := by
  rw [calls_eq] at hc
  rcases List.mem_append.1 hc with hc | hc
  · exact absurd (asCall?_eq_some.1 (Option.mem_toList.1 hc)) hn
  · obtain ⟨y, hy, hcy⟩ := List.mem_flatMap.1 hc
    have hry : r ∈ y.calls := calls_subset_of_mem (mem_calls.1 hcy) hrc
    obtain ⟨i, hi⟩ := List.getElem?_of_mem hx
    obtain ⟨j, hj⟩ := List.getElem?_of_mem hy
    obtain rfl := part_number_unique h hi hj hr hry
    obtain rfl : x = y := Option.some.inj (hi.symm.trans hj)
    exact hcy

theorem position_unique {c : Call} {p q : List Nat} (hp : n.at? p = some c.toNode)
    (hq : n.at? q = some c.toNode) : p = q := by
  induction p generalizing n q with
  | nil =>
    cases q with
    | nil => rfl
    | cons j q => exact absurd (Option.some.inj hp) (ne_of_at?_cons hq)
  | cons i p ih =>
    cases q with
    | nil => exact absurd (Option.some.inj hq) (ne_of_at?_cons hp)
    | cons j q =>
      obtain ⟨x, hx, hp⟩ := Option.bind_eq_some_iff.1 hp
      obtain ⟨y, hy, hq⟩ := Option.bind_eq_some_iff.1 hq
      have hcx : c ∈ x.calls := mem_calls.2 (mem_preorder_of_at? hp)
      have hcy : c ∈ y.calls := mem_calls.2 (mem_preorder_of_at? hq)
      obtain rfl := part_number_unique h hx hy hcx hcy
      obtain rfl : x = y := Option.some.inj (hx.symm.trans hy)
      rw [ih (calls_nodup_of_child h (List.mem_of_getElem? hx)) hp hq]

end Distinct

theorem calls_nodup_unwrap {n : Node} (h : n.calls.Nodup) : n.unwrap.calls.Nodup := by
  induction n using unwrap_induction with
  | wrap span inner types ih =>
    rw [unwrap]
    exact ih (calls_nodup_of_child h (by simp [children]))
  | plain n _ hn => rwa [hn]

theorem mem_calls_unwrap {n : Node} (h : n.calls.Nodup) {c r : Call} (hr : r ∈ n.unwrap.calls)
    (hc : c ∈ n.calls) (hrc : r ∈ c.toNode.calls) : c ∈ n.unwrap.calls := by
  induction n using unwrap_induction with
  | wrap span inner types ih =>
    rw [unwrap] at hr ⊢
    have hinner : inner ∈ (wrap span inner types).children := by simp [children]
    refine ih (calls_nodup_of_child h hinner) hr ?_
    refine mem_calls_of_child h hinner ?_ hc hrc (by simp [Call.toNode])
    exact calls_subset_of_mem (unwrap_mem_preorder inner) hr
  | plain n _ hn => rwa [hn]

end Node

end RouteAtlas.Script

namespace RouteAtlas.Rpc

open Script (Node Call Span)

theorem innerCalls_cases (callee : Node) :
    innerCalls callee = [] ∨ ∃ span base property d, callee.unwrap = .member span base property ∧
      base.unwrap = Call.toNode d ∧ innerCalls callee = chain d := by
  fun_cases innerCalls callee with
  | case1 span base property hmember span' f args types hcall =>
    exact .inr ⟨span, base, property, ⟨span', f, args, types⟩, hmember, hcall, rfl⟩
  | case2 => exact .inl rfl
  | case3 => exact .inl rfl

theorem chain_ends_with_chain {t c : Call} {above below : List Call}
    (h : chain t = above ++ c :: below) : chain c = c :: below := by
  induction above generalizing t with
  | nil =>
    obtain ⟨rfl, hbelow⟩ := List.cons.inj h
    rw [chain, hbelow]
  | cons x above ih =>
    have hinner : innerCalls t.callee = above ++ c :: below := (List.cons.inj h).2
    rcases innerCalls_cases t.callee with hnil | ⟨_, _, _, d, _, _, hchain⟩
    · rw [hnil] at hinner
      simp at hinner
    · exact ih (hchain.symm.trans hinner)

theorem exists_append_chain {t c : Call} (h : c ∈ chain t) :
    ∃ above, chain t = above ++ chain c := by
  obtain ⟨above, below, hsplit⟩ := List.append_of_mem h
  exact ⟨above, by rw [chain_ends_with_chain hsplit, hsplit]⟩

theorem mem_innerCalls_of_above {t c r : Call} {outer : List Call}
    (h : chain t = outer.reverse ++ chain r) (hc : c ∈ outer) : r ∈ innerCalls c.callee := by
  obtain ⟨above, below, hsplit⟩ := List.append_of_mem (List.mem_reverse.2 hc)
  rw [hsplit, List.append_assoc, List.cons_append] at h
  have hinner : innerCalls c.callee = below ++ chain r := (List.cons.inj (chain_ends_with_chain h)).2
  rw [hinner]
  exact List.mem_append_right below (List.mem_cons_self ..)

theorem routerOf?_eq_some_iff {m : Matcher} {c r : Call} {outer : List Call} :
    routerOf? m c = some (r, outer) ↔ chain c = outer.reverse ++ chain r ∧ m.isRouterCall r ∧
      ∀ d ∈ innerCalls r.callee, ¬m.isRouterCall d := by
  have hdrop : routerOf? m c = some (r, outer) ↔
      ((chain c).reverse.dropWhile fun c => !m.isRouterCall c) = r :: outer := by
    unfold routerOf?
    split <;> (rename_i heq; simp [heq])
  rw [hdrop]
  constructor
  · intro h
    let inner := (chain c).reverse.takeWhile fun c => !m.isRouterCall c
    have hsplit : (chain c).reverse = inner ++ r :: outer := by
      rw [← h, List.takeWhile_append_dropWhile]
    have hchain : chain c = outer.reverse ++ r :: inner.reverse := by
      rw [← List.reverse_reverse (chain c), hsplit]
      simp
    have hinner : innerCalls r.callee = inner.reverse :=
      (List.cons.inj (chain_ends_with_chain hchain)).2
    refine ⟨by rw [hchain, chain, hinner], ?_, ?_⟩
    · have hhead := List.head?_dropWhile_not (fun c => !m.isRouterCall c) (chain c).reverse
      simpa [h] using hhead
    · intro d hd
      rw [hinner, List.mem_reverse] at hd
      simpa using List.mem_takeWhile_imp hd
  · rintro ⟨hchain, hrouter, hinner⟩
    rw [hchain, chain, List.reverse_append, List.reverse_reverse, List.reverse_cons,
      List.append_assoc, List.dropWhile_append_of_pos]
    · simp [hrouter]
    · intro d hd
      simpa using hinner d (List.mem_reverse.1 hd)

theorem innerCalls_subset_calls (callee : Node) : innerCalls callee ⊆ callee.calls :=
  fun _ hc => Node.mem_calls.2 (innerCalls_mem_preorder hc)

theorem callee_mem_children (c : Call) : c.callee ∈ c.toNode.children := by
  simp [Call.toNode, Node.children]

theorem chain_subset_calls (c : Call) : chain c ⊆ c.toNode.calls := by
  intro d hd
  rcases List.mem_cons.1 hd with rfl | hd
  · exact Node.mem_calls.2 (Node.self_mem_preorder _)
  · exact Node.calls_subset_of_child (callee_mem_children c) (innerCalls_subset_calls _ hd)

theorem mem_calls_of_mem_chain {n : Node} {c r : Call} (hc : c ∈ n.calls) (hr : r ∈ chain c) :
    r ∈ n.calls :=
  Node.calls_subset_of_mem (Node.mem_calls.1 hc) (chain_subset_calls c hr)

theorem sizeOf_lt_of_mem_innerCalls {c d : Call} (h : d ∈ innerCalls c.callee) :
    sizeOf d.toNode < sizeOf c.toNode := by
  have hle := Node.sizeOf_le_of_mem_preorder (Node.mem_calls.1 (innerCalls_subset_calls _ h))
  have hlt := Node.sizeOf_lt_of_mem_children (callee_mem_children c)
  omega

/-- A call on top of one of a chain is the outermost of the chain or stands in its callee. -/
theorem eq_or_mem_callee {t c r : Call} (h : t.toNode.calls.Nodup) (hr : r ∈ chain t)
    (hc : c ∈ t.toNode.calls) (hrc : r ∈ chain c) :
    c = t ∨ r ∈ innerCalls t.callee ∧ c ∈ t.callee.calls := by
  by_cases heq : c = t
  · exact .inl heq
  have hinside : r ∈ c.toNode.calls := chain_subset_calls c hrc
  have hne : t.toNode ≠ c.toNode := fun htoNode => heq (Call.toNode_inj htoNode).symm
  rcases List.mem_cons.1 hr with rfl | hr
  -- the call would have to stand inside itself
  · have hle := Node.sizeOf_le_of_mem_preorder (Node.mem_calls.1 hinside)
    rw [Node.calls_eq] at hc
    rcases List.mem_append.1 hc with hc | hc
    · exact absurd (Node.asCall?_eq_some.1 (Option.mem_toList.1 hc)) hne
    · obtain ⟨x, hx, hcx⟩ := List.mem_flatMap.1 hc
      have hle' := Node.sizeOf_le_of_mem_preorder (Node.mem_calls.1 hcx)
      have hlt := Node.sizeOf_lt_of_mem_children hx
      omega
  · have hcallee := innerCalls_subset_calls _ hr
    exact .inr ⟨hr, Node.mem_calls_of_child h (callee_mem_children t) hcallee hc hinside hne⟩

theorem mem_innerCalls_of_mem_calls {callee : Node} {c r : Call} (h : callee.calls.Nodup)
    (hr : r ∈ innerCalls callee) (hc : c ∈ callee.calls) (hrc : r ∈ chain c) :
    c ∈ innerCalls callee := by
  fun_induction innerCalls callee with
  | case1 callee span base property hmember span' f args types hcall ih =>
    let d : Call := ⟨span', f, args, types⟩
    have hinside : r ∈ c.toNode.calls := chain_subset_calls c hrc
    have hbase : base ∈ callee.unwrap.children := by simp [hmember, Node.children]
    have hd : r ∈ base.unwrap.calls := by
      rw [hcall]
      exact chain_subset_calls d hr
    have hrbase : r ∈ base.calls := Node.calls_subset_of_mem (Node.unwrap_mem_preorder base) hd
    -- the call goes down with the one below it, through what is written around the chain
    have h₁ := Node.calls_nodup_unwrap h
    have hc₁ := Node.mem_calls_unwrap h (Node.calls_subset_of_child hbase hrbase) hc hinside
    have h₂ := Node.calls_nodup_of_child h₁ hbase
    have hc₂ := Node.mem_calls_of_child h₁ hbase hrbase hc₁ hinside (by simp [hmember, Call.toNode])
    have h₃ := Node.calls_nodup_unwrap h₂
    have hc₃ := Node.mem_calls_unwrap h₂ hd hc₂ hinside
    rw [hcall] at h₃ hc₃
    rcases eq_or_mem_callee (t := d) h₃ hr hc₃ hrc with rfl | ⟨hr, hc⟩
    · exact List.mem_cons_self ..
    · exact List.mem_cons_of_mem _ (ih (Node.calls_nodup_of_child h₃ (callee_mem_children d)) hr hc)
  | case2 => cases hr
  | case3 => cases hr

theorem mem_chain_of_mem_calls {t c r : Call} (h : t.toNode.calls.Nodup) (hr : r ∈ chain t)
    (hc : c ∈ t.toNode.calls) (hrc : r ∈ chain c) : c ∈ chain t := by
  rcases eq_or_mem_callee h hr hc hrc with rfl | ⟨hr, hc⟩
  · exact List.mem_cons_self ..
  · have hcallee := Node.calls_nodup_of_child h (callee_mem_children t)
    exact List.mem_cons_of_mem _ (mem_innerCalls_of_mem_calls hcallee hr hc hrc)

theorem mem_chain_of_find? {n : Node} {r t : Call} {p : Call → Bool} (h : n.calls.Nodup)
    (hp : ∀ c ∈ n.calls, p c = true ↔ r ∈ chain c) (ht : n.calls.find? p = some t) {c : Call}
    (hc : c ∈ n.calls) (hrc : r ∈ chain c) : c ∈ chain t := by
  induction n using Script.Node.preorder.induct with
  | case1 n ih =>
    rw [Node.calls_eq, List.find?_append] at ht
    cases hown : n.asCall?.toList.find? p with
    | some d =>
      rw [hown, Option.some_or, Option.some.injEq] at ht
      subst ht
      obtain rfl := Node.asCall?_eq_some.1 (Option.mem_toList.1 (List.mem_of_find?_eq_some hown))
      have hd : d ∈ d.toNode.calls := Node.mem_calls.2 (Node.self_mem_preorder _)
      exact mem_chain_of_mem_calls h ((hp d hd).1 (List.find?_some hown)) hc hrc
    | none =>
      rw [hown, Option.none_or, List.find?_flatMap] at ht
      obtain ⟨x, hx, ht⟩ := List.exists_of_findSome?_eq_some ht
      have hsubset : x.calls ⊆ n.calls := Node.calls_subset_of_child hx
      have htx : t ∈ x.calls := List.mem_of_find?_eq_some ht
      have hrt : r ∈ chain t := (hp t (hsubset htx)).1 (List.find?_some ht)
      have hrx : r ∈ x.calls := mem_calls_of_mem_chain htx hrt
      have hne : n ≠ c.toNode := by
        rintro rfl
        exact List.find?_eq_none.1 hown c (by simp [Node.asCall?, Call.toNode]) ((hp c hc).2 hrc)
      have hcx := Node.mem_calls_of_child h hx hrx hc (chain_subset_calls c hrc) hne
      exact ih x hx (Node.calls_nodup_of_child h hx) (fun d hd => hp d (hsubset hd)) ht hcx

end RouteAtlas.Rpc
