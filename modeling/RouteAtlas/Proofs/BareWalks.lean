import RouteAtlas.Proofs.BareSyntax
import RouteAtlas.Reference.Query

set_option autoImplicit false

namespace RouteAtlas

variable {α α' β β' : Type}

namespace Logged

def map (f : α → β) (m : Logged α) : Logged β := ⟨f m.value, m.log⟩

theorem bind_map_left (f : α → α') (m : Logged α) (k : α' → Logged β) :
    (m.map f >>= k) = m >>= fun a => k (f a) := rfl

theorem bind_map_eq_map (f : α → α') (g : β → β') (m : Logged α) {k : α → Logged β}
    {k' : α' → Logged β'} (h : ∀ a, k' (f a) = (k a).map g) :
    (m.map f >>= k') = (m >>= k).map g := by
  change Logged.mk (k' (f m.value)).value (m.log ++ (k' (f m.value)).log) = _
  rw [h]
  rfl

end Logged

end RouteAtlas

namespace RouteAtlas.Reference

open Script Tracing

variable {α α' β β' : Type}

theorem Tracing.firstFound_map (f : α → α') (step : α' → Tracing (Option β)) (as : List α) :
    firstFound step (as.map f) = firstFound (fun a => step (f a)) as := by
  induction as with
  | nil => rfl
  | cons a rest ih => rw [List.map_cons, firstFound, firstFound, ih]

theorem Tracing.gather_map (f : α → α') (step : α' → Tracing (List β)) (as : List α) :
    gather step (as.map f) = gather (fun a => step (f a)) as := by
  induction as with
  | nil => rfl
  | cons a rest ih => rw [List.map_cons, gather, gather, ih]

/-- The second step does what the first one does and gives the image of its result. -/
def Mirrors (f : α → α') (m : Tracing α) (m' : Tracing α') : Prop :=
  ∀ w, m' w = (m w).map (Prod.map f id)

namespace Mirrors

variable {f : α → α'} {g : β → β'}

theorem pure {a : α} {a' : α'} (h : a' = f a) : Mirrors f (Pure.pure a) (Pure.pure a') := by
  intro w
  rw [h]
  rfl

theorem bind {m : Tracing α} {m' : Tracing α'} {k : α → Tracing β} {k' : α' → Tracing β'}
    (hm : Mirrors f m m') (hk : ∀ a, Mirrors g (k a) (k' (f a))) :
    Mirrors g (m >>= k) (m' >>= k') := by
  intro w
  change (m' w >>= fun s => k' s.1 s.2) = _
  rw [hm w]
  change Logged.mk (k' (f (m w).value.1) (m w).value.2).value
    ((m w).log ++ (k' (f (m w).value.1) (m w).value.2).log) = _
  rw [hk (m w).value.1 (m w).value.2]
  rfl

theorem get {k : Walk → Tracing β} {k' : Walk → Tracing β'} (h : ∀ w, Mirrors g (k w) (k' w)) :
    Mirrors g (MonadState.get >>= k) (MonadState.get >>= k') :=
  fun w => h w w

theorem debug {text : String} {k : Unit → Tracing β} {k' : Unit → Tracing β'}
    (h : Mirrors g (k ()) (k' ())) : Mirrors g (debug text >>= k) (debug text >>= k') := by
  intro w
  change Logged.mk (k' () w).value (_ ++ (k' () w).log) = _
  rw [h w]
  rfl

theorem ite {c : Prop} [Decidable c] {m n : Tracing α} {m' n' : Tracing α'} (h : Mirrors f m m')
    (h' : Mirrors f n n') : Mirrors f (if c then m else n) (if c then m' else n') := by
  by_cases hc : c
  · rw [if_pos hc, if_pos hc]
    exact h
  · rw [if_neg hc, if_neg hc]
    exact h'

theorem between {enter leave : Walk → Walk} {m : Tracing α} {m' : Tracing α'} (h : Mirrors f m m') :
    Mirrors f (between enter leave m) (between enter leave m') := by
  intro w
  change Logged.mk ((m' (enter w)).value.1, leave (m' (enter w)).value.2)
    ([] ++ ((m' (enter w)).log ++ ([] ++ []))) = _
  rw [h (enter w)]
  rfl

theorem firstFound {step : α → Tracing (Option β)} {step' : α → Tracing (Option β')} (as : List α)
    (h : ∀ a, Mirrors (Option.map g) (step a) (step' a)) :
    Mirrors (Option.map g) (firstFound step as) (firstFound step' as) := by
  induction as with
  | nil => exact pure rfl
  | cons a rest ih =>
    refine bind (h a) fun b => ?_
    cases b with
    | some b => exact pure rfl
    | none => exact ih

theorem gather {step : α → Tracing (List β)} {step' : α → Tracing (List β')} (as : List α)
    (h : ∀ a, Mirrors (List.map g) (step a) (step' a)) :
    Mirrors (List.map g) (gather step as) (gather step' as) := by
  induction as with
  | nil => exact pure rfl
  | cons a rest ih => exact bind (h a) fun first => bind ih fun others => pure List.map_append.symm

end Mirrors

namespace Question

def bare : Question → Question
  | .value o e => .value o e.bare
  | .plainValue o e => .plainValue o e.bare
  | .callValue o args => .callValue o (args.map Node.bare)
  | .nameValue file name => .nameValue file name
  | .declValue id => .declValue id
  | .importValue file specifier name => .importValue file specifier name
  | .exportValue file name => .exportValue file name
  | .lookup obj key => .lookup obj.bare key
  | .propertyValue p => .propertyValue p.bare
  | .elements arr => .elements arr.bare

def bareAnswer : (q : Question) → q.Answer → q.bare.Answer
  | .value _ _ => Option.map Value.bare
  | .plainValue _ _ => Option.map Value.bare
  | .callValue _ _ => Option.map Value.bare
  | .nameValue _ _ => Option.map Value.bare
  | .declValue _ => Option.map Value.bare
  | .importValue _ _ _ => Option.map Value.bare
  | .exportValue _ _ => Option.map Value.bare
  | .lookup _ _ => Option.map Property.bare
  | .propertyValue _ => Option.map Value.bare
  | .elements _ => List.map ObjectRef.bare

def Unwrapped : Question → Prop
  | .plainValue _ e => e.unwrap = e
  | _ => True

end Question

def TracersMirror (ask ask' : Tracer) : Prop :=
  ∀ q, q.Unwrapped → Mirrors q.bareAnswer (ask q) (ask' q.bare)

section Steps

variable {ws : Workspace} {ask ask' : Tracer} (h : TracersMirror ask ask')
include h

theorem value_mirrors (o : Origin) (e : Node) :
    Mirrors (Option.map Value.bare) (value ask o e) (value ask' o e.bare) := by
  refine .get fun w => .ite (.debug (.pure rfl)) (.between ?_)
  rw [e.unwrap_bare]
  exact h (.plainValue o e.unwrap) e.unwrap_unwrap

theorem memberValue_mirrors (key : String) (base : Option Value) :
    Mirrors (Option.map Value.bare) (memberValue ask key base)
      (memberValue ask' key (base.map Value.bare)) := by
  cases base with
  | none => exact .pure rfl
  | some v =>
    cases v with
    | object obj =>
      refine .bind (h (.lookup obj key) trivial) fun p => ?_
      cases p with
      | none => exact .pure rfl
      | some p => exact h (.propertyValue p) trivial
    | «namespace» file => exact h (.exportValue file key) trivial
    | _ => exact .pure rfl

theorem plainValue_mirrors (o : Origin) (e : Node) (he : e.unwrap = e) :
    Mirrors (Option.map Value.bare) (plainValue ask o e) (plainValue ask' o e.bare) := by
  cases e with
  | object s properties => exact .pure (by simp [Value.bare, ObjectRef.bare])
  | array s elements => exact .pure (by simp [Value.bare, ArrayRef.bare])
  | template s pieces parts =>
    rcases pieces with _ | ⟨text, _ | _⟩ <;> cases parts <;> exact .pure rfl
  | call s callee args types =>
    simp only [Node.bare, plainValue, Node.bareAll_eq_map]
    exact h (.callValue o args) trivial
  | ident s name => exact h (.nameValue o.file name) trivial
  | member s base property =>
    simp only [Node.bare, plainValue, memberKey?_bare]
    cases memberKey? property with
    | none => exact .pure rfl
    | some key => exact .bind (h (.value o base) trivial) fun v => memberValue_mirrors h key v
  | wrap s inner types => exact absurd he (inner.unwrap_ne_wrap s inner types)
  | _ => exact .pure rfl

theorem callValue_mirrors (o : Origin) (args : List Node) :
    Mirrors (Option.map Value.bare) (callValue ask o args)
      (callValue ask' o (args.map Node.bare)) := by
  unfold callValue
  rw [objectArgument?_bare, followedArgument?_bare]
  cases objectArgument? o args with
  | some obj => exact .pure rfl
  | none =>
    cases followedArgument? args with
    | none => exact .pure rfl
    | some arg =>
      refine .bind (h (.value o arg) trivial) fun v => ?_
      cases v with
      | none => exact .pure rfl
      | some v => cases v <;> exact .pure rfl

theorem nameValue_mirrors (file : Nat) (name : String) :
    Mirrors (Option.map Value.bare) (nameValue ws ask file name)
      (nameValue ws.bare ask' file name) := by
  unfold nameValue
  rw [ws.binding?_bare, ws.relPath_bare]
  cases ws.binding? file name with
  | some id => exact h (.declValue id) trivial
  | none => exact .debug (.pure rfl)

theorem declValue_mirrors (id : Nat) :
    Mirrors (Option.map Value.bare) (declValue ws ask id) (declValue ws.bare ask' id) := by
  unfold declValue
  rw [ws.decl?_bare]
  cases ws.project.decls[id]? with
  | none => exact .pure rfl
  | some d =>
    refine .get fun w => .ite (.debug (.pure rfl)) (.between ?_)
    obtain ⟨file, name, span, kind⟩ := d
    cases kind with
    | value e => exact h (.value ⟨file, .declaration⟩ e) trivial
    | imported specifier name => exact h (.importValue file specifier name) trivial
    | noValue => exact .pure rfl

theorem importValue_mirrors (file : Nat) (specifier : String) (name : ImportedName) :
    Mirrors (Option.map Value.bare) (importValue ws ask file specifier name)
      (importValue ws.bare ask' file specifier name) := by
  unfold importValue
  rw [ws.resolveImport?_bare, ws.relPath_bare]
  cases ws.resolveImport? file specifier with
  | none => exact .debug (.pure rfl)
  | some target =>
    cases name with
    | «namespace» => exact .pure rfl
    | default => exact h (.exportValue target "default") trivial
    | named name => exact h (.exportValue target name) trivial

theorem exportValue_mirrors (file : Nat) (name : String) :
    Mirrors (Option.map Value.bare) (exportValue ws ask file name)
      (exportValue ws.bare ask' file name) := by
  unfold exportValue
  rw [ws.export?_bare, ws.starTargets_bare]
  cases ws.export? file name with
  | some id => exact h (.declValue id) trivial
  | none =>
    refine .get fun w => .ite (.pure rfl) (.between (.between ?_))
    exact .firstFound _ fun target => h (.exportValue target name) trivial

omit h in
theorem entryProperty_of_not_isPart (ask : Tracer) (o : Origin) (key : String) {p : Node}
    (hp : p.isPart = false) : entryProperty ask o key p = pure none := by
  cases p with
  | spread | hole | keyValue | shorthand | computed => cases hp
  | _ => rfl

theorem entryProperty_mirrors (o : Origin) (key : String) (p : Node) :
    Mirrors (Option.map Property.bare) (entryProperty ask o key p)
      (entryProperty ask' o key p.bare) := by
  cases p with
  | keyValue s k v =>
    simp only [Node.bare, entryProperty, k.keyName?_bareKey]
    refine .pure ?_
    split <;> rfl
  | shorthand s name =>
    simp only [Node.bare, entryProperty]
    refine .pure ?_
    split <;> rfl
  | spread s e =>
    refine .bind (h (.value o e) trivial) fun v => ?_
    cases v with
    | none => exact .pure rfl
    | some v =>
      cases v with
      | object base => exact h (.lookup base key) trivial
      | _ => exact .pure rfl
  | wrap s inner types =>
    -- a wrapped node is no property, nor is what is left of it without the wrapping
    rw [entryProperty_of_not_isPart ask' o key (Node.isPart_bare (.wrap s inner types))]
    exact .pure rfl
  | _ => exact .pure rfl

theorem lookup_mirrors (obj : ObjectRef) (key : String) :
    Mirrors (Option.map Property.bare) (lookup ask obj key) (lookup ask' obj.bare key) := by
  refine .get fun w => .ite (.pure rfl) (.between (.between ?_))
  rw [ObjectRef.bare, ← List.map_reverse, firstFound_map]
  exact .firstFound _ fun p => entryProperty_mirrors h obj.origin key p

theorem propertyValue_mirrors (p : Property) :
    Mirrors (Option.map Value.bare) (propertyValue ask p) (propertyValue ask' p.bare) := by
  obtain ⟨o, value⟩ := p
  cases value with
  | expr e => exact h (.value o e) trivial
  | shorthand name => exact h (.nameValue o.file name) trivial

omit h in
theorem listed_mirrors (obj : ObjectRef) :
    Mirrors (List.map ObjectRef.bare) (listed obj) (listed obj.bare) := by
  refine .get fun w => .ite (.pure rfl) ?_
  exact fun w => rfl

omit h in
theorem skipped_mirrors (o : Origin) :
    Mirrors (List.map ObjectRef.bare) (skipped ws o) (skipped ws.bare o) := by
  unfold skipped
  rw [ws.relPath_bare]
  exact .debug (.pure rfl)

theorem elementObjects_mirrors (o : Origin) (e : Node) :
    Mirrors (List.map ObjectRef.bare) (elementObjects ws ask o e)
      (elementObjects ws.bare ask' o e.bare) := by
  have hplain (hhole : ∀ s, e = .hole s → False)
      (hspread : ∀ s inner, e = .spread s inner → False) :
      Mirrors (List.map ObjectRef.bare) (elementObjects ws ask o e)
        (elementObjects ws.bare ask' o e.bare) := by
    rw [elementObjects.eq_3 ws ask o e hhole hspread,
      elementObjects.eq_3 ws.bare ask' o e.bare (Node.bare_ne_hole hhole)
        (Node.bare_ne_spread hspread)]
    refine .bind (h (.value o e) trivial) fun v => ?_
    cases v with
    | none => exact skipped_mirrors o
    | some v =>
      cases v with
      | object obj => exact listed_mirrors obj
      | _ => exact skipped_mirrors o
  cases e with
  | hole s => exact .pure rfl
  | spread s e =>
    refine .bind (h (.value o e) trivial) fun v => ?_
    cases v with
    | none => exact skipped_mirrors o
    | some v =>
      cases v with
      | array base => exact h (.elements base) trivial
      | _ => exact skipped_mirrors o
  | _ => exact hplain nofun nofun

theorem elements_mirrors (arr : ArrayRef) :
    Mirrors (List.map ObjectRef.bare) (elements ws ask arr) (elements ws.bare ask' arr.bare) := by
  refine .get fun w => .ite (.debug (.pure rfl)) (.between (.between ?_))
  rw [ArrayRef.bare, gather_map]
  exact .gather _ fun e => elementObjects_mirrors h arr.origin e

theorem follow_mirrors : TracersMirror (follow ws ask) (follow ws.bare ask') := by
  intro q hq
  cases q with
  | value o e => exact value_mirrors h o e
  | plainValue o e => exact plainValue_mirrors h o e hq
  | callValue o args => exact callValue_mirrors h o args
  | nameValue file name => exact nameValue_mirrors h file name
  | declValue id => exact declValue_mirrors h id
  | importValue file specifier name => exact importValue_mirrors h file specifier name
  | exportValue file name => exact exportValue_mirrors h file name
  | lookup obj key => exact lookup_mirrors h obj key
  | propertyValue p => exact propertyValue_mirrors h p
  | elements arr => exact elements_mirrors h arr

end Steps

theorem silent_mirrors : TracersMirror silent silent := by
  intro q _
  cases q <;> exact .pure rfl

theorem nested_mirrors (ws : Workspace) (n : Nat) :
    TracersMirror (nested ws silent n) (nested ws.bare silent n) := by
  induction n with
  | zero => exact silent_mirrors
  | succ n ih => exact follow_mirrors ih

theorem nestingBound_bare (ws : Workspace) : nestingBound ws.bare = nestingBound ws := by
  simp [nestingBound, Workspace.bare, Project.bare]

theorem trace_mirrors (ws : Workspace) : TracersMirror (trace ws) (trace ws.bare) := by
  -- the bound counts declarations, so both walks may nest equally often
  rw [trace, trace, nestingBound_bare]
  exact nested_mirrors ws (nestingBound ws)

/-! ## Queries -/

theorem Mirrors.run {f : α → α'} {m : Tracing α} {m' : Tracing α'} (h : Mirrors f m m') :
    m'.run = m.run.map f := by
  change (m' {} >>= fun r => Pure.pure r.1) = _
  rw [h {}]
  rfl

section Queries

variable (ws : Workspace)

theorem resolveObject_bare (o : Origin) (e : Node) :
    resolveObject ws.bare o e.bare = (resolveObject ws o e).map (Option.map ObjectRef.bare) := by
  have hvalue : (trace ws.bare (.value o e.bare)).run =
      (trace ws (.value o e)).run.map (Option.map Value.bare) :=
    (trace_mirrors ws (.value o e) trivial).run
  unfold resolveObject
  rw [ws.relPath_bare, hvalue]
  refine Logged.bind_map_eq_map _ _ _ fun v => ?_
  cases v with
  | none => rfl
  | some v => cases v <;> rfl

theorem exportedObject_bare (file : Nat) (name : String) :
    exportedObject ws.bare file name =
      (exportedObject ws file name).map (Option.map ObjectRef.bare) := by
  have hvalue : (trace ws.bare (.exportValue file name)).run =
      (trace ws (.exportValue file name)).run.map (Option.map Value.bare) :=
    (trace_mirrors ws (.exportValue file name) trivial).run
  unfold exportedObject
  rw [hvalue]
  refine Logged.bind_map_eq_map _ _ _ fun v => ?_
  cases v with
  | none => rfl
  | some v => cases v <;> rfl

theorem resolveArray_bare (o : Origin) (e : Node) :
    resolveArray ws.bare o e.bare = (resolveArray ws o e).map (List.map ObjectRef.bare) := by
  unfold resolveArray
  rw [ws.relPath_bare]
  refine Mirrors.run (.bind (trace_mirrors ws (.value o e) trivial) fun v => ?_)
  cases v with
  | none => exact .debug (.pure rfl)
  | some v =>
    cases v with
    | array arr => exact trace_mirrors ws (.elements arr) trivial
    | _ => exact .debug (.pure rfl)

theorem propertyArray_bare (obj : ObjectRef) (key : String) :
    propertyArray ws.bare obj.bare key =
      (propertyArray ws obj key).map (List.map ObjectRef.bare) := by
  unfold propertyArray
  rw [ws.relPath_bare]
  refine Mirrors.run (.bind (trace_mirrors ws (.lookup obj key) trivial) fun p => ?_)
  cases p with
  | none => exact .pure rfl
  | some p =>
    refine .bind (trace_mirrors ws (.propertyValue p) trivial) fun v => ?_
    cases v with
    | none => exact .debug (.pure rfl)
    | some v =>
      cases v with
      | array arr => exact trace_mirrors ws (.elements arr) trivial
      | _ => exact .debug (.pure rfl)

theorem keyValue_bare (obj : ObjectRef) (key : String) :
    (keyValue ws.bare obj.bare key).run =
      (keyValue ws obj key).run.map (Option.map Value.bare) := by
  refine Mirrors.run (.bind (trace_mirrors ws (.lookup obj key) trivial) fun p => ?_)
  cases p with
  | none => exact .pure rfl
  | some p => exact trace_mirrors ws (.propertyValue p) trivial

theorem propertyObject_bare (obj : ObjectRef) (key : String) :
    propertyObject ws.bare obj.bare key =
      (propertyObject ws obj key).map (Option.map ObjectRef.bare) := by
  unfold propertyObject
  rw [keyValue_bare]
  refine Logged.bind_map_eq_map _ _ _ fun v => ?_
  cases v with
  | none => rfl
  | some v => cases v <;> rfl

theorem propertyString_bare (obj : ObjectRef) (key : String) :
    propertyString ws.bare obj.bare key = propertyString ws obj key := by
  unfold propertyString
  rw [keyValue_bare, Logged.bind_map_left]
  refine Logged.bind_congr ?_
  cases (keyValue ws obj key).run.value with
  | none => rfl
  | some v => cases v <;> rfl

theorem propertyFlag_bare (obj : ObjectRef) (key : String) :
    propertyFlag ws.bare obj.bare key = propertyFlag ws obj key := by
  unfold propertyFlag
  rw [keyValue_bare, Logged.bind_map_left]
  refine Logged.bind_congr ?_
  cases (keyValue ws obj key).run.value with
  | none => rfl
  | some v => cases v <;> rfl

end Queries

/-- Parentheses and type assertions are transparent: without them, at every depth of every
expression of the project, a walk from any state gives the same value, taken without them, with the
same messages and the same state, and so does every query. -/
theorem queries_see_through_wrapping (ws : Workspace) :
    (∀ (o : Origin) (e : Node) (w : Walk), trace ws.bare (.value o e.bare) w =
      (trace ws (.value o e) w).map (Prod.map (Option.map Value.bare) id)) ∧
    (∀ (o : Origin) (e : Node), resolveObject ws.bare o e.bare =
      (resolveObject ws o e).map (Option.map ObjectRef.bare)) ∧
    (∀ (o : Origin) (e : Node), resolveArray ws.bare o e.bare =
      (resolveArray ws o e).map (List.map ObjectRef.bare)) ∧
    (∀ (file : Nat) (name : String), exportedObject ws.bare file name =
      (exportedObject ws file name).map (Option.map ObjectRef.bare)) ∧
    ∀ (obj : ObjectRef) (key : String),
      propertyObject ws.bare obj.bare key =
        (propertyObject ws obj key).map (Option.map ObjectRef.bare) ∧
      propertyArray ws.bare obj.bare key =
        (propertyArray ws obj key).map (List.map ObjectRef.bare) ∧
      propertyString ws.bare obj.bare key = propertyString ws obj key ∧
      propertyFlag ws.bare obj.bare key = propertyFlag ws obj key := by
  refine ⟨fun o e => trace_mirrors ws (.value o e) trivial, resolveObject_bare ws,
    resolveArray_bare ws, exportedObject_bare ws, fun obj key => ?_⟩
  exact ⟨propertyObject_bare ws obj key, propertyArray_bare ws obj key,
    propertyString_bare ws obj key, propertyFlag_bare ws obj key⟩

end RouteAtlas.Reference
