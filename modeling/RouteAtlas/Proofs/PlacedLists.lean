import Mathlib.Data.List.Forall2
import RouteAtlas.Proofs.TreePositions

set_option autoImplicit false

namespace RouteAtlas

variable {ι κ α β : Type}

/-- The entries of a list stand at places, one at each place where something stands, and in the order
of the places. -/
def Enumerates (before : ι → ι → Prop) (At : ι → α → Prop) (xs : List α) : Prop :=
  ∃ places : List ι, places.Pairwise before ∧ List.Forall₂ At places xs ∧
    ∀ i, i ∈ places ↔ ∃ x, At i x

namespace Enumerates

variable {before : ι → ι → Prop} {At : ι → α → Prop} {xs : List α}

theorem nil (h : ∀ i x, ¬At i x) : Enumerates before At [] :=
  ⟨[], .nil, .nil, fun i => by simp [h]⟩

theorem congr {At' : ι → α → Prop} (h : Enumerates before At xs) (hiff : ∀ i x, At i x ↔ At' i x) :
    Enumerates before At' xs := by
  obtain ⟨places, horder, hat, hplaces⟩ := h
  refine ⟨places, horder, hat.imp fun i x => (hiff i x).1, fun i => ?_⟩
  rw [hplaces]
  exact exists_congr (hiff i)

theorem map (h : Enumerates before At xs) (g : α → β) :
    Enumerates before (fun i y => ∃ x, At i x ∧ g x = y) (xs.map g) := by
  obtain ⟨places, horder, hat, hplaces⟩ := h
  refine ⟨places, horder, ?_, fun i => ?_⟩
  · rw [List.forall₂_map_right_iff]
    exact hat.imp fun i x hx => ⟨x, hx, rfl⟩
  · rw [hplaces]
    constructor
    · rintro ⟨x, hx⟩
      exact ⟨g x, x, hx, rfl⟩
    · rintro ⟨_, x, hx, rfl⟩
      exact ⟨x, hx⟩

theorem getElem? (xs : List α) : Enumerates (· < ·) (fun (i : Nat) x => xs[i]? = some x) xs := by
  refine ⟨List.range xs.length, List.pairwise_lt_range, ?_, fun i => ?_⟩
  · rw [List.forall₂_iff_get]
    exact ⟨List.length_range, fun i h h' => by simp⟩
  · rw [List.mem_range]
    exact ⟨fun h => ⟨xs[i], List.getElem?_eq_getElem h⟩,
      fun ⟨_, hx⟩ => (List.getElem?_eq_some_iff.1 hx).1⟩

theorem ofOption {o : Option α} {g : α → List β} {At : α → κ → β → Prop} {before : κ → κ → Prop}
    (h : ∀ a, o = some a → Enumerates before (At a) (g a)) :
    Enumerates before (fun i y => ∃ a, o = some a ∧ At a i y) (o.toList.flatMap g) := by
  cases o with
  | none => exact nil (by simp)
  | some a =>
    rw [Option.toList_some, List.flatMap_singleton]
    exact (h a rfl).congr (by simp)

section Within

variable {before' : κ → κ → Prop} {At' : ι → α → κ → β → Prop} {g : α → List β}

/-- Where something gives a list of its own, the places in that list come behind the place of the
thing itself. -/
theorem flatMap (h : Enumerates before At xs) (hone : ∀ i a b, At i a → At i b → a = b)
    (hg : ∀ i a, At i a → Enumerates before' (At' i a) (g a)) :
    Enumerates (Prod.Lex before before')
      (fun (place : ι × κ) y => ∃ a, At place.1 a ∧ At' place.1 a place.2 y) (xs.flatMap g) := by
  obtain ⟨places, horder, hat, hplaces⟩ := h
  -- the induction is on the entries of the outer list, so only their places are spoken of
  suffices hpairs : ∃ pairs : List (ι × κ), pairs.Pairwise (Prod.Lex before before') ∧
      List.Forall₂ (fun place y => ∃ a, At place.1 a ∧ At' place.1 a place.2 y) pairs
        (xs.flatMap g) ∧
      ∀ place, place ∈ pairs ↔
        place.1 ∈ places ∧ ∃ y, ∃ a, At place.1 a ∧ At' place.1 a place.2 y by
    obtain ⟨pairs, hpairs, hentries, hmem⟩ := hpairs
    refine ⟨pairs, hpairs, hentries, fun place => (hmem place).trans (and_iff_right_of_imp ?_)⟩
    rintro ⟨_, a, ha, _⟩
    exact (hplaces _).2 ⟨a, ha⟩
  clear hplaces
  induction hat with
  | nil => exact ⟨[], .nil, .nil, by simp⟩
  | @cons i a places xs ha _ ih =>
    obtain ⟨hfirst, hrest⟩ := List.pairwise_cons.1 horder
    obtain ⟨pairs, hpairs, hentries, hmem⟩ := ih hrest
    obtain ⟨inner, hinner, hat', hplaces'⟩ := hg i a ha
    refine ⟨inner.map (i, ·) ++ pairs, ?_, ?_, fun ⟨j, k⟩ => ?_⟩
    · refine List.pairwise_append.2 ⟨?_, hpairs, ?_⟩
      · rw [List.pairwise_map]
        exact hinner.imp fun hlt => .right i hlt
      · rintro _ hk ⟨j, k'⟩ hplace
        obtain ⟨k, _, rfl⟩ := List.mem_map.1 hk
        exact .left _ _ (hfirst j ((hmem _).1 hplace).1)
    · rw [List.flatMap_cons]
      refine List.rel_append ?_ hentries
      rw [List.forall₂_map_left_iff]
      exact hat'.imp fun k y hy => ⟨a, ha, hy⟩
    · rw [List.mem_append, hmem, List.mem_cons, or_and_right]
      refine or_congr_left ?_
      simp only [List.mem_map, Prod.mk.injEq, hplaces']
      constructor
      · rintro ⟨_, ⟨y, hy⟩, rfl, rfl⟩
        exact ⟨rfl, y, a, ha, hy⟩
      · rintro ⟨rfl, y, b, hb, hy⟩
        obtain rfl := hone _ a b ha hb
        exact ⟨k, ⟨y, hy⟩, rfl, rfl⟩

end Within

end Enumerates

/-- A visit of a tree goes through its positions. -/
theorem Script.Node.preorder_enumerated (n : Script.Node) :
    Enumerates (· < ·) (fun p x => n.at? p = some x) n.preorder := by
  refine ⟨n.positions, n.positions_pairwise, ?_, fun p => mem_positions_iff⟩
  have hnodes : List.Forall₂ (· = ·) (n.positions.map n.at?) (n.preorder.map some) := by
    rw [map_at?_positions]
    exact List.forall₂_refl _
  rwa [List.forall₂_map_left_iff, List.forall₂_map_right_iff] at hnodes

end RouteAtlas
