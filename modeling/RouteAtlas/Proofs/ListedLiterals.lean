import Mathlib.Data.List.Nodup
import Mathlib.Data.List.Perm.Subperm
import RouteAtlas.Proofs.QueryRegion

set_option autoImplicit false

/-!
# Literals that are listed

A walk notes the literals that it lists and lists none of them again. It knows a literal by the
file, the span and who holds it, a declaration or the call that was searched for. So an array gives
each literal at most once for each holder, however spreads and imports lead back to it. Only the
parts of the argument of a call have two holders, and only through a reference that leads back to
the declaration of that call.
-/
namespace RouteAtlas.Reference

open Script Tracing

/-- Between two states of a walk these objects were listed: none of them twice, none that had been
listed before, and all of them are noted. -/
structure Walk.Lists (w w' : Walk) (objs : List ObjectRef) : Prop where
  continues : w.Continues w'
  nodup : (objs.map ObjectRef.literal).Nodup
  unseen : ∀ obj ∈ objs, obj.literal ∉ w.seen
  noted : ∀ obj ∈ objs, obj.literal ∈ w'.seen

theorem Walk.Continues.lists {w w' : Walk} (h : w.Continues w') : w.Lists w' [] :=
  ⟨h, List.nodup_nil, by simp, by simp⟩

theorem Walk.Lists.append {u v w : Walk} {as bs : List ObjectRef} (h : u.Lists v as)
    (h' : v.Lists w bs) : u.Lists w (as ++ bs) where
  continues := h.continues.trans h'.continues
  nodup := by
    rw [List.map_append]
    refine List.Nodup.append h.nodup h'.nodup fun l hl hl' => ?_
    obtain ⟨a, ha, rfl⟩ := List.mem_map.1 hl
    obtain ⟨b, hb, heq⟩ := List.mem_map.1 hl'
    exact h'.unseen b hb (heq ▸ h.noted a ha)
  unseen obj hobj hseen := by
    rcases List.mem_append.1 hobj with hobj | hobj
    · exact h.unseen obj hobj hseen
    · exact h'.unseen obj hobj (h.continues.seen.subset hseen)
  noted obj hobj := by
    rcases List.mem_append.1 hobj with hobj | hobj
    · exact h'.continues.seen.subset (h.noted obj hobj)
    · exact h'.noted obj hobj

def ListsOnce (m : Tracing (List ObjectRef)) : Prop :=
  ∀ w : Walk, w.Lists (m w).value.2 (m w).value.1

namespace ListsOnce

variable {α : Type}

theorem yields {m : Tracing (List ObjectRef)} (h : ListsOnce m) : Yields m fun _ => True :=
  fun w => ⟨(h w).continues, trivial⟩

theorem pure_nil : ListsOnce (Pure.pure []) := fun w => (Walk.Continues.refl w).lists

theorem bind {m : Tracing α} {P : α → Prop} {f : α → Tracing (List ObjectRef)} (hm : Yields m P)
    (hf : ∀ a, P a → ListsOnce (f a)) : ListsOnce (m >>= f) := by
  intro w
  obtain ⟨hw, ha⟩ := hm w
  exact hw.lists.append (hf _ ha (m w).value.2)

theorem ite {c : Prop} [Decidable c] {m m' : Tracing (List ObjectRef)} (h : c → ListsOnce m)
    (h' : ¬c → ListsOnce m') : ListsOnce (if c then m else m') := by
  by_cases hc : c
  · rw [if_pos hc]
    exact h hc
  · rw [if_neg hc]
    exact h' hc

theorem deeper {m : Tracing (List ObjectRef)} (h : ListsOnce m) : ListsOnce (deeper m) :=
  fun w => ⟨(h.yields.deeper w).1, (h _).nodup, (h { w with depth := w.depth + 1 }).unseen,
    (h _).noted⟩

theorem opening {l : Literal} {m : Tracing (List ObjectRef)} (h : ListsOnce m) :
    ListsOnce (opening l m) :=
  fun w => ⟨(h.yields.opening w).1, (h _).nodup,
    (h { w with containers := l :: w.containers }).unseen, (h _).noted⟩

theorem gather {step : α → Tracing (List ObjectRef)} {as : List α}
    (h : ∀ a ∈ as, ListsOnce (step a)) : ListsOnce (gather step as) := by
  induction as with
  | nil => exact pure_nil
  | cons a rest ih =>
    intro w
    have hrest := ih fun a' ha' => h a' (by simp [ha'])
    exact (h a (by simp) w).append (hrest (step a w).value.2)

theorem listed (obj : ObjectRef) : ListsOnce (listed obj) := by
  intro w
  have heq : Reference.listed obj w =
      (if w.seen.contains obj.literal then Pure.pure []
        else do
          modify fun w => { w with seen := obj.literal :: w.seen }
          return [obj] : Tracing (List ObjectRef)) w := rfl
  by_cases hseen : w.seen.contains obj.literal
  · rw [heq, if_pos hseen]
    exact pure_nil w
  · rw [heq, if_neg hseen]
    exact ⟨⟨rfl, rfl, rfl, rfl, List.suffix_cons ..⟩, List.nodup_singleton _,
      List.forall_mem_singleton.2 (by simpa using hseen),
      List.forall_mem_singleton.2 List.mem_cons_self⟩

theorem skipped (ws : Workspace) (o : Origin) : ListsOnce (skipped ws o) :=
  bind (Yields.debug _) fun _ _ => pure_nil

theorem nodup_run {m : Tracing (List ObjectRef)} (h : ListsOnce m) :
    (m.run.value.map ObjectRef.literal).Nodup :=
  (h {}).nodup

end ListsOnce

section Elements

variable {ws : Workspace} {ask : Tracer} (hask : (Region.everything ws).Sound ask)
  (helements : ∀ arr, ListsOnce (ask (.elements arr)))
include hask helements

theorem elementObjects_listsOnce (o : Origin) (e : Node) :
    ListsOnce (elementObjects ws ask o e) := by
  unfold elementObjects
  split
  · exact .pure_nil
  · refine .bind (hask (.value o _) trivial) fun v _ => ?_
    split
    · exact helements _
    · exact .skipped ws o
  · refine .bind (hask (.value o e) trivial) fun v _ => ?_
    split
    · exact .listed _
    · exact .skipped ws o

theorem elements_listsOnce (arr : ArrayRef) : ListsOnce (elements ws ask arr) := by
  refine .bind Yields.get fun w _ => .ite (fun _ => ?_) fun _ => ?_
  · exact .bind (Yields.debug _) fun _ _ => .pure_nil
  · exact .opening (.deeper (.gather fun e _ => elementObjects_listsOnce hask helements _ e))

end Elements

theorem nested_elements_listsOnce (ws : Workspace) (n : Nat) (arr : ArrayRef) :
    ListsOnce (nested ws silent n (.elements arr)) := by
  induction n generalizing arr with
  | zero => exact .pure_nil
  | succ n ih => exact elements_listsOnce (Region.nested_sound Region.silent_sound n) ih arr

theorem trace_elements_listsOnce (ws : Workspace) (arr : ArrayRef) :
    ListsOnce (trace ws (.elements arr)) :=
  nested_elements_listsOnce ws (nestingBound ws) arr

theorem propertyArray_nodup (ws : Workspace) (obj : ObjectRef) (key : String) :
    ((propertyArray ws obj key).value.map ObjectRef.literal).Nodup := by
  have hask := (Region.everything ws).trace_sound
  refine ListsOnce.nodup_run (.bind (hask (.lookup obj key) trivial) fun p hp => ?_)
  split
  · exact .pure_nil
  · refine .bind (hask (.propertyValue _) (hp _ rfl)) fun v _ => ?_
    split
    · exact trace_elements_listsOnce ws _
    · exact .bind (Yields.debug _) fun _ _ => .pure_nil

def ObjectRef.node (obj : ObjectRef) : Node := .object obj.span obj.properties

/-- Where an object is written, whoever holds it. -/
def ObjectRef.source (obj : ObjectRef) : Nat × Span := (obj.origin.file, obj.span)

/-- The parts of an object and all that declarations hold. A walk from a call that was searched for
sees no other call. -/
def Region.partsOf (ws : Workspace) (root : ObjectRef) : Region ws where
  Holds o n := o.holder = .call → o = root.origin ∧ n ∈ root.node.preorder
  child h hc hcall := by
    obtain ⟨ho, hn⟩ := h hcall
    exact ⟨ho, Node.preorder_subset_of_mem hn (Node.child_mem_preorder hc)⟩
  declared _ _ hcall := by cases hcall

theorem Region.partsOf_self (ws : Workspace) (root : ObjectRef) :
    (partsOf ws root).HoldsObject root :=
  fun _ => ⟨rfl, Node.self_mem_preorder _⟩

/-- A declaration holds this object, and the object is written inside the argument of the call that
was searched for: a reference has led back to the declaration around the call. -/
def ObjectRef.LeadsBackTo (root obj : ObjectRef) : Prop :=
  root.origin.holder = .call ∧ obj.origin = ⟨root.origin.file, .declaration⟩ ∧
    obj.span ∈ root.node.preorder.map Node.span

/-- A list of objects that walks from the parts of an object give. -/
structure ListedFrom (ws : Workspace) (root : ObjectRef) (objs : List ObjectRef) : Prop where
  nodup : (objs.map ObjectRef.literal).Nodup
  held : ∀ obj ∈ objs, (Region.partsOf ws root).HoldsObject obj

namespace ListedFrom

variable {ws : Workspace} {root : ObjectRef} {objs : List ObjectRef}

theorem nil : ListedFrom ws root [] := ⟨List.nodup_nil, by simp⟩

theorem propertyArray {obj : ObjectRef} (key : String)
    (h : (Region.partsOf ws root).HoldsObject obj) :
    ListedFrom ws root (propertyArray ws obj key).value :=
  ⟨propertyArray_nodup ws obj key, (Region.partsOf ws root).propertyArray_holds key h⟩

theorem filter (h : ListedFrom ws root objs) (keep : ObjectRef → Bool) :
    ListedFrom ws root (objs.filter keep) where
  nodup := h.nodup.sublist (List.filter_sublist.map _)
  held obj hobj := h.held obj (List.mem_filter.1 hobj).1

theorem count_source_le_two (h : ListedFrom ws root objs) (s : Nat × Span) :
    (objs.map ObjectRef.source).count s ≤ 2 := by
  have hnodup := (h.filter (·.source == s)).nodup
  -- What is written at one place has only two possible holders.
  have hholders : (objs.filter (·.source == s)).map ObjectRef.literal ⊆
      [⟨⟨s.1, .declaration⟩, s.2⟩, ⟨⟨s.1, .call⟩, s.2⟩] := by
    intro l hl
    obtain ⟨⟨⟨file, holder⟩, span, properties⟩, hobj, rfl⟩ := List.mem_map.1 hl
    obtain rfl : (file, span) = s := eq_of_beq (List.mem_filter.1 hobj).2
    cases holder <;> simp [ObjectRef.literal]
  have hlength := (hnodup.subperm hholders).length_le
  rw [List.length_map] at hlength
  rw [List.count_eq_countP, List.countP_map, List.countP_eq_length_filter]
  exact hlength

theorem holder_eq (h : ListedFrom ws root objs) (hback : ∀ obj ∈ objs, ¬root.LeadsBackTo obj)
    {a b : ObjectRef} (ha : a ∈ objs) (hb : b ∈ objs) (heq : a.source = b.source)
    (hcall : a.origin.holder = .call) : b.origin.holder = .call := by
  obtain ⟨horigin, hpart⟩ := h.held a ha hcall
  obtain ⟨hfile, hspan⟩ := Prod.mk.inj heq
  cases hdeclared : b.origin.holder with
  | call => rfl
  | declaration =>
    -- A declaration holds what is written where a part of the argument of the call is written.
    refine absurd ⟨horigin ▸ hcall, ?_, ?_⟩ (hback b hb)
    · rw [← horigin, hfile, ← hdeclared]
    · rw [← hspan]
      exact List.mem_map_of_mem hpart

theorem source_nodup (h : ListedFrom ws root objs) (hback : ∀ obj ∈ objs, ¬root.LeadsBackTo obj) :
    (objs.map ObjectRef.source).Nodup := by
  refine h.nodup.of_map.map_on fun a ha b hb heq => ?_
  refine List.inj_on_of_nodup_map h.nodup ha hb ?_
  obtain ⟨hfile, hspan⟩ := Prod.mk.inj heq
  have hholder : a.origin.holder = b.origin.holder := by
    cases ha' : a.origin.holder with
    | call => exact (h.holder_eq hback ha hb heq ha').symm
    | declaration =>
      cases hb' : b.origin.holder with
      | call => exact ha'.symm.trans (h.holder_eq hback hb ha heq.symm hb')
      | declaration => rfl
  exact congrArg₂ Literal.mk (congrArg₂ Origin.mk hfile hholder) hspan

end ListedFrom

end RouteAtlas.Reference
