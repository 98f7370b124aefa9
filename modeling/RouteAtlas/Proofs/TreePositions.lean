import Mathlib.Data.List.Basic
import RouteAtlas.Proofs.SyntaxParts

set_option autoImplicit false

namespace RouteAtlas.Script.Node

def positions (n : Node) : List (List Nat) :=
  [] :: n.children.attach.zipIdx.flatMap fun (c, i) => (positions c.1).map (i :: ·)
termination_by sizeOf n
decreasing_by exact sizeOf_lt_of_mem_children c.2

theorem positions_eq (n : Node) :
    n.positions = [] :: n.children.zipIdx.flatMap fun (c, i) => c.positions.map (i :: ·) := by
  rw [positions]
  conv_rhs => rw [← List.attach_map_subtype_val n.children, List.zipIdx_map, List.flatMap_map]
  rfl

theorem mem_positions_iff {n : Node} {p : List Nat} : p ∈ n.positions ↔ ∃ x, n.at? p = some x := by
  induction p generalizing n with
  | nil =>
    rw [positions_eq, at?_nil]
    simp
  | cons i p ih =>
    rw [positions_eq, at?_cons]
    simp only [List.mem_cons, reduceCtorEq, false_or, List.mem_flatMap, List.mem_map, Prod.exists,
      List.mem_zipIdx_iff_getElem?, List.cons.injEq, Option.bind_eq_some_iff]
    constructor
    · rintro ⟨c, _, hc, _, hp, rfl, rfl⟩
      obtain ⟨x, hx⟩ := ih.1 hp
      exact ⟨x, c, hc, hx⟩
    · rintro ⟨x, c, hc, hx⟩
      exact ⟨c, i, hc, p, ih.2 ⟨x, hx⟩, rfl, rfl⟩

/-- The positions of a tree stand in increasing order, so each node is met once. -/
theorem positions_pairwise (n : Node) : n.positions.Pairwise (· < ·) := by
  induction n using preorder.induct with
  | case1 n ih =>
    rw [positions_eq, List.pairwise_cons, List.pairwise_flatMap]
    refine ⟨fun p hp => ?_, ?_, (zipIdx_pairwise_lt _).imp ?_⟩
    · obtain ⟨⟨c, i⟩, _, hp⟩ := List.mem_flatMap.1 hp
      obtain ⟨q, _, rfl⟩ := List.mem_map.1 hp
      exact List.nil_lt_cons _ _
    · rintro ⟨c, i⟩ hc
      have hmem := List.mem_of_getElem? (List.mem_zipIdx_iff_getElem?.1 hc)
      rw [List.pairwise_map]
      exact (ih c hmem).imp fun hlt => List.cons_lt_cons_iff.2 (.inr ⟨rfl, hlt⟩)
    · rintro ⟨c, i⟩ ⟨d, j⟩ hij p hp q hq
      obtain ⟨p', _, rfl⟩ := List.mem_map.1 hp
      obtain ⟨q', _, rfl⟩ := List.mem_map.1 hq
      exact List.cons_lt_cons_iff.2 (.inl hij)

theorem map_at?_positions (n : Node) : n.positions.map n.at? = n.preorder.map some := by
  induction n using preorder.induct with
  | case1 n ih =>
    rw [positions_eq, preorder_eq, List.map_cons, List.map_cons, List.map_flatMap, List.map_flatMap]
    congr 1
    conv_rhs => rw [← List.zipIdx_map_fst 0 n.children, List.flatMap_map]
    apply List.flatMap_congr
    rintro ⟨c, i⟩ hc
    have hchild := List.mem_zipIdx_iff_getElem?.1 hc
    rw [← ih c (List.mem_of_getElem? hchild), List.map_map]
    refine List.map_congr_left fun p _ => ?_
    rw [Function.comp_apply, at?_cons_of_child hchild]

end RouteAtlas.Script.Node
