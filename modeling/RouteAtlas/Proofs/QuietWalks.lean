import RouteAtlas.Proofs.Nesting

set_option autoImplicit false

namespace RouteAtlas.Reference

open Script Tracing

variable {α β : Type}

/-- A step that neither looks at what has been listed nor adds to it, and that takes back its other
notes. -/
def Quiet (m : Tracing α) : Prop :=
  ∀ (w : Walk) (seen : List Literal),
    (m { w with seen := seen }).value = ((m w).value.1, { w with seen := seen })

namespace Quiet

theorem value_eq {m : Tracing α} (h : Quiet m) (w : Walk) : (m w).value = ((m w).value.1, w) :=
  h w w.seen

theorem pure (a : α) : Quiet (Pure.pure a) := fun _ _ => rfl

theorem debug (text : String) : Quiet (debug text) := fun _ _ => rfl

theorem bind {m : Tracing α} {f : α → Tracing β} (hm : Quiet m) (hf : ∀ a, Quiet (f a)) :
    Quiet (m >>= f) := by
  intro w seen
  change (f (m { w with seen := seen }).value.1 (m { w with seen := seen }).value.2).value =
    ((f (m w).value.1 (m w).value.2).value.1, { w with seen := seen })
  rw [hm w seen, hf _ w seen, hm.value_eq w]

theorem bind_value {m : Tracing α} (h : Quiet m) (f : α → Tracing β) (w : Walk) :
    ((m >>= f) w).value = (f (m w).value.1 w).value := by
  change (f (m w).value.1 (m w).value.2).value = _
  rw [h.value_eq w]

theorem get {f : Walk → Tracing β} (h : ∀ w, Quiet (f w))
    (hf : ∀ (w : Walk) (seen : List Literal), f { w with seen := seen } = f w) :
    Quiet (MonadState.get >>= f) := by
  intro w seen
  change (f { w with seen := seen } { w with seen := seen }).value =
    ((f w w).value.1, { w with seen := seen })
  -- what is done next may depend on the state read, but not on what it says has been listed
  rw [hf w seen]
  exact h w w seen

theorem ite {c : Prop} [Decidable c] {m m' : Tracing α} (h : Quiet m) (h' : Quiet m') :
    Quiet (if c then m else m') := by
  by_cases hc : c
  · rw [if_pos hc]
    exact h
  · rw [if_neg hc]
    exact h'

theorem between {enter leave : Walk → Walk} {m : Tracing α} (h : Quiet m)
    (henter : ∀ (w : Walk) (seen : List Literal),
      enter { w with seen := seen } = { enter w with seen := seen })
    (hleave : ∀ w, leave (enter w) = w) : Quiet (between enter leave m) := by
  intro w seen
  change ((m (enter { w with seen := seen })).value.1,
      leave (m (enter { w with seen := seen })).value.2) =
    ((m (enter w)).value.1, { w with seen := seen })
  rw [henter w seen, h (enter w) seen, ← henter w seen, hleave]

theorem deeper {m : Tracing α} (h : Quiet m) : Quiet (deeper m) :=
  h.between (fun _ _ => rfl) fun _ => rfl

theorem following {id : Nat} {m : Tracing α} (h : Quiet m) : Quiet (following id m) := by
  refine h.between (fun _ _ => rfl) fun w => ?_
  simp only [List.erase_cons_head]

theorem searching {key : Nat × String} {m : Tracing α} (h : Quiet m) :
    Quiet (searching key m) := by
  refine h.between (fun _ _ => rfl) fun w => ?_
  simp only [List.erase_cons_head]

theorem opening {l : Literal} {m : Tracing α} (h : Quiet m) : Quiet (opening l m) := by
  refine h.between (fun _ _ => rfl) fun w => ?_
  simp only [List.erase_cons_head]

theorem firstFound {step : α → Tracing (Option β)} {as : List α} (h : ∀ a ∈ as, Quiet (step a)) :
    Quiet (firstFound step as) := by
  induction as with
  | nil => exact pure none
  | cons a rest ih =>
    refine bind (h a (by simp)) fun r => ?_
    cases r with
    | some b => exact pure (some b)
    | none => exact ih fun a' ha' => h a' (by simp [ha'])

theorem firstFound_value {step : α → Tracing (Option β)} {as : List α}
    (h : ∀ a ∈ as, Quiet (step a)) (w : Walk) :
    (Tracing.firstFound step as w).value.1 = as.findSome? fun a => (step a w).value.1 := by
  induction as with
  | nil => rfl
  | cons a rest ih =>
    rw [Tracing.firstFound, bind_value (h a (by simp)), List.findSome?_cons]
    cases (step a w).value.1 with
    | some b => rfl
    | none => exact ih fun a' ha' => h a' (by simp [ha'])

end Quiet

def Question.ListsNothing : Question → Prop
  | .elements _ => False
  | _ => True

def QuietTracer (ask : Tracer) : Prop := ∀ q, q.ListsNothing → Quiet (ask q)

section Quiet

variable {ws : Workspace} {ask : Tracer} (h : QuietTracer ask)
include h

theorem value_quiet (o : Origin) (e : Node) : Quiet (value ask o e) := by
  refine .get (fun w => .ite ?_ ?_) fun _ _ => rfl
  · exact .bind (.debug _) fun _ => .pure _
  · exact .deeper (h (.plainValue o e.unwrap) trivial)

theorem memberValue_quiet (key : String) (base : Option Value) :
    Quiet (memberValue ask key base) := by
  unfold memberValue
  split
  · rename_i obj
    refine .bind (h (.lookup obj key) trivial) fun p => ?_
    cases p with
    | none => exact .pure none
    | some p => exact h (.propertyValue p) trivial
  · exact h (.exportValue _ key) trivial
  · exact .pure none

theorem plainValue_quiet (o : Origin) (e : Node) : Quiet (plainValue ask o e) := by
  unfold plainValue
  split
  case h_6 span callee args types => exact h (.callValue o args) trivial
  case h_7 span name => exact h (.nameValue o.file name) trivial
  case h_8 span base property =>
    split
    · exact .pure none
    · exact .bind (h (.value o base) trivial) fun v => memberValue_quiet h _ v
  all_goals exact .pure _

theorem callValue_quiet (o : Origin) (args : List Node) : Quiet (callValue ask o args) := by
  unfold callValue
  split
  · exact .pure _
  · split
    · exact .pure none
    · refine .bind (h (.value o _) trivial) fun v => ?_
      split <;> exact .pure _

theorem nameValue_quiet (file : Nat) (name : String) : Quiet (nameValue ws ask file name) := by
  unfold nameValue
  split
  · exact h (.declValue _) trivial
  · exact .bind (.debug _) fun _ => .pure none

theorem declValue_quiet (id : Nat) : Quiet (declValue ws ask id) := by
  unfold declValue
  split
  · exact .pure none
  · refine .get (fun w => .ite ?_ (.following ?_)) fun _ _ => rfl
    · exact .bind (.debug _) fun _ => .pure none
    · split
      · exact h (.value _ _) trivial
      · exact h (.importValue _ _ _) trivial
      · exact .pure none

theorem importValue_quiet (file : Nat) (specifier : String) (name : ImportedName) :
    Quiet (importValue ws ask file specifier name) := by
  unfold importValue
  split
  · exact .bind (.debug _) fun _ => .pure none
  · cases name with
    | «namespace» => exact .pure _
    | default => exact h (.exportValue _ "default") trivial
    | named name => exact h (.exportValue _ name) trivial

theorem exportValue_quiet (file : Nat) (name : String) : Quiet (exportValue ws ask file name) := by
  unfold exportValue
  split
  · exact h (.declValue _) trivial
  · refine .get (fun w => .ite (.pure none) (.searching (.deeper ?_))) fun _ _ => rfl
    exact .firstFound fun target _ => h (.exportValue target name) trivial

theorem entryProperty_quiet (o : Origin) (key : String) (p : Node) :
    Quiet (entryProperty ask o key p) := by
  unfold entryProperty
  split
  case h_3 span inner =>
    refine .bind (h (.value o inner) trivial) fun v => ?_
    split
    · exact h (.lookup _ key) trivial
    · exact .pure none
  all_goals exact .pure _

theorem lookup_quiet (obj : ObjectRef) (key : String) : Quiet (lookup ask obj key) := by
  refine .get (fun w => .ite (.pure none) (.opening (.deeper ?_))) fun _ _ => rfl
  exact .firstFound fun p _ => entryProperty_quiet h obj.origin key p

theorem propertyValue_quiet (p : Property) : Quiet (propertyValue ask p) := by
  unfold propertyValue
  split
  · exact h (.value p.origin _) trivial
  · exact h (.nameValue p.origin.file _) trivial

theorem follow_quiet : QuietTracer (follow ws ask) := by
  intro q hq
  cases q with
  | value o e => exact value_quiet h o e
  | plainValue o e => exact plainValue_quiet h o e
  | callValue o args => exact callValue_quiet h o args
  | nameValue file name => exact nameValue_quiet h file name
  | declValue id => exact declValue_quiet h id
  | importValue file specifier name => exact importValue_quiet h file specifier name
  | exportValue file name => exact exportValue_quiet h file name
  | lookup obj key => exact lookup_quiet h obj key
  | propertyValue p => exact propertyValue_quiet h p
  | elements arr => cases hq

end Quiet

theorem nested_quiet (ws : Workspace) (n : Nat) : QuietTracer (nested ws silent n) := by
  induction n with
  | zero =>
    intro q hq
    cases q with
    | elements arr => cases hq
    | _ => exact .pure none
  | succ n ih => exact follow_quiet ih

theorem trace_quiet (ws : Workspace) : QuietTracer (trace ws) := nested_quiet ws (nestingBound ws)

def answer (ws : Workspace) (w : Walk) (q : Question) : q.Answer := (trace ws q w).value.1

end RouteAtlas.Reference
