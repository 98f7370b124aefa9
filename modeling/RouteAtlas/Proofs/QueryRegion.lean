import RouteAtlas.Proofs.LoadedProject
import RouteAtlas.Proofs.Region
import RouteAtlas.Reference.Query

set_option autoImplicit false

namespace RouteAtlas.Reference

open Script Tracing

theorem Yields.run {α : Type} {m : Tracing α} {P : α → Prop} (h : Yields m P) : P m.run.value :=
  (h {}).2

namespace Region

variable {ws : Workspace} (r : Region ws)

theorem resolveObject_holds {o : Origin} {e : Node} (he : r.Holds o e) :
    ∀ obj ∈ (resolveObject ws o e).value, r.HoldsObject obj := by
  have hv := (r.trace_sound (.value o e) he).run
  unfold resolveObject
  rw [Logged.value_bind]
  split
  · rename_i obj heq
    rintro _ ⟨⟩
    exact hv _ heq
  · simp

theorem resolveArray_holds {o : Origin} {e : Node} (he : r.Holds o e) :
    ∀ obj ∈ (resolveArray ws o e).value, r.HoldsObject obj := by
  refine Yields.run (P := (∀ obj ∈ ·, r.HoldsObject obj)) ?_
  refine (r.trace_sound (.value o e) he).bind fun v hv => ?_
  split
  · exact r.trace_sound (.elements _) (hv _ rfl)
  · exact (Yields.debug _).bind fun _ _ => .pure (by simp)

theorem exportedObject_holds (file : Nat) (name : String) :
    ∀ obj ∈ (exportedObject ws file name).value, r.HoldsObject obj := by
  have hv := (r.trace_sound (.exportValue file name) trivial).run
  unfold exportedObject
  rw [Logged.value_bind]
  split
  · rename_i obj heq
    rintro _ ⟨⟩
    exact hv _ heq
  · simp

theorem keyValue_holds {obj : ObjectRef} (key : String) (h : r.HoldsObject obj) :
    Yields (keyValue ws obj key) (∀ v ∈ ·, r.HoldsValue v) := by
  refine (r.trace_sound (.lookup obj key) h).bind fun p hp => ?_
  split
  · exact r.trace_sound (.propertyValue _) (hp _ rfl)
  · exact .pure (by simp)

theorem propertyObject_holds {obj : ObjectRef} (key : String) (h : r.HoldsObject obj) :
    ∀ found ∈ (propertyObject ws obj key).value, r.HoldsObject found := by
  have hv := (r.keyValue_holds key h).run
  unfold propertyObject
  rw [Logged.value_bind]
  split
  · rename_i found heq
    rintro _ ⟨⟩
    exact hv _ heq
  · simp

theorem propertyArray_holds {obj : ObjectRef} (key : String) (h : r.HoldsObject obj) :
    ∀ found ∈ (propertyArray ws obj key).value, r.HoldsObject found := by
  refine Yields.run (P := (∀ found ∈ ·, r.HoldsObject found)) ?_
  refine (r.trace_sound (.lookup obj key) h).bind fun p hp => ?_
  split
  · exact .pure (by simp)
  · refine (r.trace_sound (.propertyValue _) (hp _ rfl)).bind fun v hv => ?_
    split
    · exact r.trace_sound (.elements _) (hv _ rfl)
    · exact (Yields.debug _).bind fun _ _ => .pure (by simp)

end Region

end RouteAtlas.Reference

namespace RouteAtlas.Workspace

open Script

def HasNode (ws : Workspace) (file : Nat) (n : Node) : Prop :=
  ∃ f, ws.project.files[file]? = some f ∧ n ∈ f.module.preorder

def HasObject (ws : Workspace) (obj : Reference.ObjectRef) : Prop :=
  ws.HasNode obj.origin.file (.object obj.span obj.properties)

def sources (ws : Workspace) (h : ws.project.Indexed) : Reference.Region ws where
  Holds o n := ws.HasNode o.file n
  child := by
    rintro o n c ⟨f, hf, hn⟩ hc
    exact ⟨f, hf, Module.mem_preorder_child hn hc⟩
  declared := h.value_mem _ _ _

end RouteAtlas.Workspace
