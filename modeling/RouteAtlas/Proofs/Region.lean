import RouteAtlas.Proofs.Tracing

set_option autoImplicit false

namespace RouteAtlas.Reference

open Script Tracing

structure Region (ws : Workspace) where
  Holds : Origin → Node → Prop
  child : ∀ {o : Origin} {n c : Node}, Holds o n → c ∈ n.children → Holds o c
  declared : ∀ {id : Nat} {d : Declaration} {e : Node},
    ws.project.decls[id]? = some d → d.kind = .value e → Holds ⟨d.file, .declaration⟩ e

variable {ws : Workspace}

def Region.everything (ws : Workspace) : Region ws where
  Holds _ _ := True
  child _ _ := trivial
  declared _ _ := trivial

namespace Region

variable (r : Region ws)

def HoldsObject (obj : ObjectRef) : Prop := r.Holds obj.origin (.object obj.span obj.properties)

def HoldsArray (arr : ArrayRef) : Prop := r.Holds arr.origin (.array arr.span arr.elements)

def HoldsValue : Value → Prop
  | .object obj => r.HoldsObject obj
  | .array arr => r.HoldsArray arr
  | .namespace _ => True
  | .text _ => True
  | .flag _ => True

def HoldsProperty (p : Property) : Prop :=
  match p.value with
  | .expr e => r.Holds p.origin e
  | .shorthand _ => True

def HoldsQuestion : Question → Prop
  | .value o e => r.Holds o e
  | .plainValue o e => r.Holds o e
  | .callValue o args => ∀ a ∈ args, r.Holds o a
  | .nameValue _ _ => True
  | .declValue _ => True
  | .importValue _ _ _ => True
  | .exportValue _ _ => True
  | .lookup obj _ => r.HoldsObject obj
  | .propertyValue p => r.HoldsProperty p
  | .elements arr => r.HoldsArray arr

def HoldsAnswer : (q : Question) → q.Answer → Prop
  | .value _ _ => fun a => ∀ v ∈ a, r.HoldsValue v
  | .plainValue _ _ => fun a => ∀ v ∈ a, r.HoldsValue v
  | .callValue _ _ => fun a => ∀ v ∈ a, r.HoldsValue v
  | .nameValue _ _ => fun a => ∀ v ∈ a, r.HoldsValue v
  | .declValue _ => fun a => ∀ v ∈ a, r.HoldsValue v
  | .importValue _ _ _ => fun a => ∀ v ∈ a, r.HoldsValue v
  | .exportValue _ _ => fun a => ∀ v ∈ a, r.HoldsValue v
  | .lookup _ _ => fun a => ∀ p ∈ a, r.HoldsProperty p
  | .propertyValue _ => fun a => ∀ v ∈ a, r.HoldsValue v
  | .elements _ => fun a => ∀ obj ∈ a, r.HoldsObject obj

/-- Questions about the region are answered from the region. -/
def Sound (ask : Tracer) : Prop :=
  ∀ q, r.HoldsQuestion q → Yields (ask q) (r.HoldsAnswer q)

variable {r}

theorem holds_unwrap {o : Origin} {e : Node} (h : r.Holds o e) : r.Holds o e.unwrap := by
  induction e using Node.unwrap_induction with
  | wrap span inner types ih =>
    rw [Node.unwrap]
    exact ih (r.child h (by simp [Node.children]))
  | plain n _ hn => rwa [hn]

theorem holds_objectArgument {o : Origin} {args : List Node} {obj : ObjectRef}
    (h : ∀ a ∈ args, r.Holds o a) (hobj : objectArgument? o args = some obj) :
    r.HoldsObject obj := by
  fun_induction objectArgument? o args with
  | case1 => cases hobj
  | case2 rest span inner ih => exact ih (fun a ha => h a (by simp [ha])) hobj
  | case3 arg rest _ span properties harg =>
    cases hobj
    have hu := holds_unwrap (h arg (by simp))
    rwa [harg] at hu
  | case4 arg rest _ _ ih => exact ih (fun a ha => h a (by simp [ha])) hobj

theorem followedArgument_mem {args : List Node} {arg : Node}
    (h : followedArgument? args = some arg) : arg ∈ args := by
  unfold followedArgument? at h
  split at h
  · split at h
    · cases h
    · split at h <;> cases h <;> simp
  · cases h

section Sound

variable {ask : Tracer} (h : r.Sound ask)
include h

theorem value_sound {o : Origin} {e : Node} (he : r.Holds o e) :
    Yields (value ask o e) (∀ v ∈ ·, r.HoldsValue v) := by
  refine Yields.get.bind fun w _ => .ite (fun _ => ?_) fun _ => ?_
  · exact (Yields.debug _).bind fun _ _ => .pure (by simp)
  · exact .deeper (h (.plainValue o e.unwrap) (holds_unwrap he))

theorem memberValue_sound (key : String) {base : Option Value} (hb : ∀ v ∈ base, r.HoldsValue v) :
    Yields (memberValue ask key base) (∀ v ∈ ·, r.HoldsValue v) := by
  unfold memberValue
  split
  · rename_i obj
    refine (h (.lookup obj key) (hb _ rfl)).bind fun p hp => ?_
    cases p with
    | none => exact .pure (by simp)
    | some p => exact h (.propertyValue p) (hp p rfl)
  · exact h (.exportValue _ key) trivial
  · exact .pure (by simp)

theorem plainValue_sound {o : Origin} {e : Node} (he : r.Holds o e) :
    Yields (plainValue ask o e) (∀ v ∈ ·, r.HoldsValue v) := by
  unfold plainValue
  split
  case h_1 span properties => exact .pure (by rintro _ ⟨⟩; exact he)
  case h_2 span elements => exact .pure (by rintro _ ⟨⟩; exact he)
  case h_3 => exact .pure (by rintro _ ⟨⟩; trivial)
  case h_4 => exact .pure (by rintro _ ⟨⟩; trivial)
  case h_5 => exact .pure (by rintro _ ⟨⟩; trivial)
  case h_6 span callee args types =>
    exact h (.callValue o args) fun a ha => r.child he (by simp [Node.children, ha])
  case h_7 name => exact h (.nameValue o.file name) trivial
  case h_8 span base property =>
    split
    · exact .pure (by simp)
    · refine (h (.value o base) (r.child he (by simp [Node.children]))).bind fun v hv => ?_
      exact memberValue_sound h _ hv
  case h_9 => exact .pure (by simp)

theorem callValue_sound {o : Origin} {args : List Node} (ha : ∀ a ∈ args, r.Holds o a) :
    Yields (callValue ask o args) (∀ v ∈ ·, r.HoldsValue v) := by
  unfold callValue
  split
  · rename_i obj hobj
    exact .pure (by rintro _ ⟨⟩; exact holds_objectArgument ha hobj)
  · split
    · exact .pure (by simp)
    · rename_i arg harg
      refine (h (.value o arg) (ha arg (followedArgument_mem harg))).bind fun v hv => ?_
      split
      · exact .pure hv
      · exact .pure (by simp)

theorem nameValue_sound (file : Nat) (name : String) :
    Yields (nameValue ws ask file name) (∀ v ∈ ·, r.HoldsValue v) := by
  unfold nameValue
  split
  · exact h (.declValue _) trivial
  · exact (Yields.debug _).bind fun _ _ => .pure (by simp)

theorem declValue_sound (id : Nat) :
    Yields (declValue ws ask id) (∀ v ∈ ·, r.HoldsValue v) := by
  unfold declValue
  split
  · exact .pure (by simp)
  · rename_i d hd
    refine Yields.get.bind fun w _ => .ite (fun _ => ?_) fun _ => .following ?_
    · exact (Yields.debug _).bind fun _ _ => .pure (by simp)
    · split
      · rename_i e he
        exact h (.value ⟨d.file, .declaration⟩ e) (r.declared hd he)
      · exact h (.importValue d.file _ _) trivial
      · exact .pure (by simp)

theorem importValue_sound (file : Nat) (specifier : String) (name : ImportedName) :
    Yields (importValue ws ask file specifier name) (∀ v ∈ ·, r.HoldsValue v) := by
  unfold importValue
  split
  · exact (Yields.debug _).bind fun _ _ => .pure (by simp)
  · rename_i target _
    cases name with
    | «namespace» => exact .pure (by rintro _ ⟨⟩; trivial)
    | default => exact h (.exportValue target "default") trivial
    | named name => exact h (.exportValue target name) trivial

theorem exportValue_sound (file : Nat) (name : String) :
    Yields (exportValue ws ask file name) (∀ v ∈ ·, r.HoldsValue v) := by
  unfold exportValue
  split
  · exact h (.declValue _) trivial
  · refine Yields.get.bind fun w _ => .ite (fun _ => .pure (by simp)) fun _ => ?_
    exact .searching (.deeper (.firstFound fun target _ => h (.exportValue target name) trivial))

theorem entryProperty_sound {o : Origin} {p : Node} (key : String) (hp : r.Holds o p) :
    Yields (entryProperty ask o key p) (∀ q ∈ ·, r.HoldsProperty q) := by
  unfold entryProperty
  split
  case h_1 span k v =>
    refine .pure fun q hq => ?_
    split at hq
    · cases hq
      exact r.child hp (by simp [Node.children])
    · cases hq
  case h_2 span name =>
    refine .pure fun q hq => ?_
    split at hq
    · cases hq
      trivial
    · cases hq
  case h_3 span inner =>
    refine (h (.value o inner) (r.child hp (by simp [Node.children]))).bind fun v hv => ?_
    split
    · exact h (.lookup _ key) (hv _ rfl)
    · exact .pure (by simp)
  case h_4 => exact .pure (by simp)

theorem lookup_sound {obj : ObjectRef} (key : String) (hobj : r.HoldsObject obj) :
    Yields (lookup ask obj key) (∀ p ∈ ·, r.HoldsProperty p) := by
  refine Yields.get.bind fun w _ => .ite (fun _ => .pure (by simp)) fun _ => ?_
  refine .opening (.deeper (.firstFound fun p hp => entryProperty_sound h key ?_))
  exact r.child hobj (by simpa [Node.children] using hp)

theorem propertyValue_sound {p : Property} (hp : r.HoldsProperty p) :
    Yields (propertyValue ask p) (∀ v ∈ ·, r.HoldsValue v) := by
  unfold propertyValue
  unfold HoldsProperty at hp
  split
  · rename_i e he
    rw [he] at hp
    exact h (.value p.origin e) hp
  · exact h (.nameValue p.origin.file _) trivial

theorem elementObjects_sound {o : Origin} {e : Node} (he : r.Holds o e) :
    Yields (elementObjects ws ask o e) (∀ obj ∈ ·, r.HoldsObject obj) := by
  have hskip : Yields (skipped ws o) (∀ obj ∈ ·, r.HoldsObject obj) :=
    (Yields.debug _).bind fun _ _ => .pure (by simp)
  unfold elementObjects
  split
  · exact .pure (by simp)
  · rename_i span inner
    refine (h (.value o inner) (r.child he (by simp [Node.children]))).bind fun v hv => ?_
    split
    · exact h (.elements _) (hv _ rfl)
    · exact hskip
  · refine (h (.value o e) he).bind fun v hv => ?_
    split
    · exact .listed (hv _ rfl)
    · exact hskip

theorem elements_sound {arr : ArrayRef} (harr : r.HoldsArray arr) :
    Yields (elements ws ask arr) (∀ obj ∈ ·, r.HoldsObject obj) := by
  refine Yields.get.bind fun w _ => .ite (fun _ => ?_) fun _ => ?_
  · exact (Yields.debug _).bind fun _ _ => .pure (by simp)
  · exact .opening (.deeper (.gather fun e he => elementObjects_sound h (r.child harr he)))

theorem follow_sound : r.Sound (follow ws ask) := by
  intro q hq
  cases q with
  | value o e => exact value_sound h hq
  | plainValue o e => exact plainValue_sound h hq
  | callValue o args => exact callValue_sound h hq
  | nameValue file name => exact nameValue_sound h file name
  | declValue id => exact declValue_sound h id
  | importValue file specifier name => exact importValue_sound h file specifier name
  | exportValue file name => exact exportValue_sound h file name
  | lookup obj key => exact lookup_sound h key hq
  | propertyValue p => exact propertyValue_sound h hq
  | elements arr => exact elements_sound h hq

theorem nested_sound (n : Nat) : r.Sound (nested ws ask n) := by
  induction n with
  | zero => exact h
  | succ n ih => exact follow_sound ih

end Sound

theorem silent_sound : r.Sound silent := by
  intro q _
  cases q <;> exact .pure (by simp [HoldsAnswer])

/-- A walk that starts in a region finds only what stands in the region. -/
theorem trace_sound (r : Region ws) : r.Sound (trace ws) :=
  nested_sound silent_sound (nestingBound ws)

end Region

end RouteAtlas.Reference
