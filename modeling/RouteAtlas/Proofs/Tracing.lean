import RouteAtlas.Reference.Walk

set_option autoImplicit false

namespace RouteAtlas.Reference

open Tracing

variable {α β : Type}

structure Walk.Continues (w w' : Walk) : Prop where
  depth : w'.depth = w.depth
  decls : w'.decls = w.decls
  exports : w'.exports = w.exports
  containers : w'.containers = w.containers
  seen : w.seen <:+ w'.seen

theorem Walk.Continues.refl (w : Walk) : w.Continues w :=
  ⟨rfl, rfl, rfl, rfl, List.suffix_refl _⟩

theorem Walk.Continues.trans {u v w : Walk} (h : u.Continues v) (h' : v.Continues w) :
    u.Continues w :=
  ⟨h'.depth.trans h.depth, h'.decls.trans h.decls, h'.exports.trans h.exports,
    h'.containers.trans h.containers, h.seen.trans h'.seen⟩

/-- From every state a step gives a result that satisfies `P`, and the walk goes on from where
it was. -/
def Yields (m : Tracing α) (P : α → Prop) : Prop :=
  ∀ w, w.Continues (m w).value.2 ∧ P (m w).value.1

namespace Yields

variable {P : α → Prop} {Q : β → Prop}

theorem mono {P' : α → Prop} {m : Tracing α} (h : Yields m P) (hP : ∀ a, P a → P' a) :
    Yields m P' :=
  fun w => ⟨(h w).1, hP _ (h w).2⟩

theorem pure {a : α} (h : P a) : Yields (Pure.pure a) P :=
  fun w => ⟨.refl w, h⟩

theorem bind {m : Tracing α} {f : α → Tracing β} (hm : Yields m P)
    (hf : ∀ a, P a → Yields (f a) Q) : Yields (m >>= f) Q := by
  intro w
  obtain ⟨hw, ha⟩ := hm w
  obtain ⟨hw', hb⟩ := hf _ ha (m w).value.2
  exact ⟨hw.trans hw', hb⟩

theorem get : Yields MonadState.get (fun _ : Walk => True) :=
  fun w => ⟨.refl w, trivial⟩

theorem debug (text : String) : Yields (debug text) (fun _ => True) :=
  fun w => ⟨.refl w, trivial⟩

/-- A change that is undone leaves no trace, whatever happens in between. -/
theorem between {enter leave : Walk → Walk} {m : Tracing α} (h : Yields m P)
    (hw : ∀ w w', (enter w).Continues w' → w.Continues (leave w')) :
    Yields (between enter leave m) P :=
  fun w => ⟨hw w _ (h (enter w)).1, (h (enter w)).2⟩

theorem deeper {m : Tracing α} (h : Yields m P) : Yields (deeper m) P := by
  refine h.between fun w w' hw => ⟨?_, hw.decls, hw.exports, hw.containers, hw.seen⟩
  exact congrArg (· - 1) hw.depth

theorem following {id : Nat} {m : Tracing α} (h : Yields m P) : Yields (following id m) P := by
  refine h.between fun w w' hw => ⟨hw.depth, ?_, hw.exports, hw.containers, hw.seen⟩
  exact (congrArg (List.erase · id) hw.decls).trans (List.erase_cons_head ..)

theorem searching {key : Nat × String} {m : Tracing α} (h : Yields m P) :
    Yields (searching key m) P := by
  refine h.between fun w w' hw => ⟨hw.depth, hw.decls, ?_, hw.containers, hw.seen⟩
  exact (congrArg (List.erase · key) hw.exports).trans (List.erase_cons_head ..)

theorem opening {l : Literal} {m : Tracing α} (h : Yields m P) : Yields (opening l m) P := by
  refine h.between fun w w' hw => ⟨hw.depth, hw.decls, hw.exports, ?_, hw.seen⟩
  exact (congrArg (List.erase · l) hw.containers).trans (List.erase_cons_head ..)

theorem firstFound {step : α → Tracing (Option β)} {as : List α}
    (h : ∀ a ∈ as, Yields (step a) (∀ b ∈ ·, Q b)) :
    Yields (firstFound step as) (∀ b ∈ ·, Q b) := by
  induction as with
  | nil => exact pure (by simp)
  | cons a rest ih =>
    refine bind (h a (by simp)) fun r hr => ?_
    cases r with
    | some b => exact pure hr
    | none => exact ih fun a' ha' => h a' (by simp [ha'])

theorem gather {step : α → Tracing (List β)} {as : List α}
    (h : ∀ a ∈ as, Yields (step a) (∀ b ∈ ·, Q b)) :
    Yields (gather step as) (∀ b ∈ ·, Q b) := by
  induction as with
  | nil => exact pure (by simp)
  | cons a rest ih =>
    refine bind (h a (by simp)) fun first hfirst => ?_
    refine bind (ih fun a' ha' => h a' (by simp [ha'])) fun others hothers => pure ?_
    intro b hb
    exact (List.mem_append.1 hb).elim (hfirst b) (hothers b)

theorem ite {c : Prop} [Decidable c] {m m' : Tracing α} (h : c → Yields m P)
    (h' : ¬c → Yields m' P) : Yields (if c then m else m') P := by
  by_cases hc : c
  · rw [if_pos hc]
    exact h hc
  · rw [if_neg hc]
    exact h' hc

theorem listed {obj : ObjectRef} {R : ObjectRef → Prop} (h : R obj) :
    Yields (listed obj) (∀ b ∈ ·, R b) := by
  refine bind get fun _ _ => ite (fun _ => pure (by simp)) fun _ => ?_
  intro w
  exact ⟨⟨rfl, rfl, rfl, rfl, List.suffix_cons ..⟩, List.forall_mem_singleton.2 h⟩

end Yields

end RouteAtlas.Reference
