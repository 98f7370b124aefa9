import RouteAtlas.Rpc.Site

set_option autoImplicit false

namespace RouteAtlas

theorem zipIdx_pairwise_lt {α : Type} (l : List α) : l.zipIdx.Pairwise fun a b => a.2 < b.2 := by
  have h := List.pairwise_lt_range' (s := 0) (n := l.length)
  rw [← List.zipIdx_map_snd 0 l, List.pairwise_map] at h
  exact h

namespace Script

namespace Node

theorem self_mem_preorder (n : Node) : n ∈ n.preorder := by
  rw [preorder_eq]
  exact List.mem_cons_self ..

theorem preorder_subset_of_mem {n m : Node} (h : n ∈ m.preorder) : n.preorder ⊆ m.preorder := by
  induction m using preorder.induct with
  | case1 m ih =>
    rw [preorder_eq m] at h ⊢
    rcases List.mem_cons.1 h with rfl | h
    · rw [← preorder_eq]
      exact List.Subset.refl _
    · obtain ⟨c, hc, hn⟩ := List.mem_flatMap.1 h
      intro x hx
      exact List.mem_cons_of_mem _ (List.mem_flatMap.2 ⟨c, hc, ih c hc hn hx⟩)

theorem child_mem_preorder {n c : Node} (h : c ∈ n.children) : c ∈ n.preorder := by
  rw [preorder_eq]
  exact List.mem_cons_of_mem _ (List.mem_flatMap.2 ⟨c, h, self_mem_preorder c⟩)

theorem unwrap_mem_preorder (n : Node) : n.unwrap ∈ n.preorder := by
  induction n using unwrap_induction with
  | wrap s inner types ih =>
    rw [unwrap]
    exact preorder_subset_of_mem (child_mem_preorder (by simp [children])) ih
  | plain n _ hn =>
    rw [hn]
    exact self_mem_preorder n

theorem withoutSpread_mem_preorder (n : Node) : n.withoutSpread ∈ n.preorder := by
  unfold withoutSpread
  split
  · exact child_mem_preorder (by simp [children])
  · exact self_mem_preorder n

theorem asCall?_eq_some {n : Node} {c : Call} : n.asCall? = some c ↔ n = c.toNode := by
  constructor
  · intro h
    unfold asCall? at h
    split at h
    · cases h
      rfl
    · cases h
  · rintro rfl
    rfl

/-- The node at a position, which gives the numbers of the parts that lead to it from the top. -/
def at? : Node → List Nat → Option Node
  | n, [] => some n
  | n, i :: p => (n.children[i]?).bind fun c => c.at? p

/-- The nodes above a position, the outermost first. -/
def above : Node → List Nat → List Node
  | _, [] => []
  | n, i :: p => n :: ((n.children[i]?).map fun c => c.above p).getD []

theorem at?_nil (n : Node) : n.at? [] = some n := rfl

theorem at?_cons (n : Node) (i : Nat) (p : List Nat) :
    n.at? (i :: p) = (n.children[i]?).bind fun c => c.at? p := rfl

theorem at?_cons_of_child {n c : Node} {i : Nat} (h : n.children[i]? = some c) (p : List Nat) :
    n.at? (i :: p) = c.at? p := by
  rw [at?_cons, h, Option.bind_some]

theorem above_cons_of_child {n c : Node} {i : Nat} (h : n.children[i]? = some c) (p : List Nat) :
    n.above (i :: p) = n :: c.above p := by
  rw [above, h, Option.map_some, Option.getD_some]

end Node

def Module.tree (m : Module) : Node := .other ⟨0, 0⟩ m.nodes

theorem Call.toNode_inj {c d : Call} (h : c.toNode = d.toNode) : c = d :=
  Option.some.inj (congrArg Node.asCall? h)

namespace Module

variable {m : Module} {n c : Node}

theorem mem_preorder_of_mem (h : n ∈ m.preorder) (hc : c ∈ n.preorder) : c ∈ m.preorder := by
  obtain ⟨top, htop, hn⟩ := List.mem_flatMap.1 h
  exact List.mem_flatMap.2 ⟨top, htop, Node.preorder_subset_of_mem hn hc⟩

theorem mem_preorder_child (h : n ∈ m.preorder) (hc : c ∈ n.children) : c ∈ m.preorder :=
  mem_preorder_of_mem h (Node.child_mem_preorder hc)

theorem mem_preorder_unwrap (h : n ∈ m.preorder) : n.unwrap ∈ m.preorder :=
  mem_preorder_of_mem h (Node.unwrap_mem_preorder n)

theorem mem_preorder_withoutSpread (h : n ∈ m.preorder) : n.withoutSpread ∈ m.preorder :=
  mem_preorder_of_mem h (Node.withoutSpread_mem_preorder n)

theorem mem_preorder_of_mem_calls {call : Call} (h : call ∈ m.calls) :
    call.toNode ∈ m.preorder := by
  obtain ⟨n, hn, hcall⟩ := List.mem_filterMap.1 h
  rwa [← Node.asCall?_eq_some.1 hcall]

theorem mem_preorder_of_firstArg? {call : Call} {arg : Node} (h : call.toNode ∈ m.preorder)
    (harg : call.firstArg? = some arg) : arg ∈ m.preorder := by
  obtain ⟨first, hfirst, rfl⟩ := Option.map_eq_some_iff.1 harg
  have hmem : first ∈ call.toNode.children := by
    simp [Call.toNode, Node.children, List.mem_of_head? hfirst]
  exact mem_preorder_withoutSpread (mem_preorder_child h hmem)

end Module

def Item.specifierSpans : Item → List Span
  | .exportNamed _ _ specifiers _ _ =>
    specifiers.filterMap fun
      | .named span _ _ _ => some span
      | .namespace _ => none
  | _ => []

/-- The spans of all syntax nodes of a module: of its items and the specifiers in them, and of the
trees below. -/
def Module.spans (m : Module) : List Span :=
  m.items.flatMap (fun i => i.span :: i.specifierSpans) ++ m.preorder.map Node.span

namespace Module

variable {m : Module}

theorem span_mem_spans {n : Node} (h : n ∈ m.preorder) : n.span ∈ m.spans :=
  List.mem_append_right _ (List.mem_map_of_mem h)

theorem item_span_mem_spans {i : Item} (h : i ∈ m.items) : i.span ∈ m.spans :=
  List.mem_append_left _ (List.mem_flatMap.2 ⟨i, h, by simp⟩)

theorem specifier_span_mem_spans {i : Item} {s : Span} (h : i ∈ m.items)
    (hs : s ∈ i.specifierSpans) : s ∈ m.spans :=
  List.mem_append_left _ (List.mem_flatMap.2 ⟨i, h, by simp [hs]⟩)

theorem mem_preorder_of_item {i : Item} {n : Node} (h : i ∈ m.items) (hn : n ∈ i.nodes) :
    n ∈ m.preorder :=
  List.mem_flatMap.2 ⟨n, List.mem_flatMap.2 ⟨i, h, hn⟩, n.self_mem_preorder⟩

end Module

end Script

namespace Rpc

open Script (Node Call)

theorem innerCalls_mem_preorder {callee : Node} {c : Call} (h : c ∈ innerCalls callee) :
    c.toNode ∈ callee.preorder := by
  fun_induction innerCalls callee with
  | case1 callee span base property hmember span' f args types hcall ih =>
    have hbase : base ∈ callee.preorder := by
      refine Node.preorder_subset_of_mem (Node.unwrap_mem_preorder callee) ?_
      rw [hmember]
      exact Node.child_mem_preorder (by simp [Node.children])
    have hinner : .call span' f args types ∈ callee.preorder := by
      rw [← hcall]
      exact Node.preorder_subset_of_mem hbase (Node.unwrap_mem_preorder base)
    rcases List.mem_cons.1 h with rfl | h
    · exact hinner
    · refine Node.preorder_subset_of_mem hinner ?_
      exact Node.preorder_subset_of_mem (Node.child_mem_preorder (by simp [Node.children])) (ih h)
  | case2 => cases h
  | case3 => cases h

end Rpc

end RouteAtlas
