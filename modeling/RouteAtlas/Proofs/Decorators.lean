import RouteAtlas.Controller.Survey
import RouteAtlas.Proofs.SyntaxParts

set_option autoImplicit false

namespace RouteAtlas

/-- What the first entry gives that gives anything. -/
inductive FirstOf {α β : Type} (gives : α → β → Prop) : List α → β → Prop
  | here {a : α} {xs : List α} {b : β} (h : gives a b) : FirstOf gives (a :: xs) b
  | there {a : α} {xs : List α} {b : β} (misses : ∀ b', ¬gives a b') (h : FirstOf gives xs b) :
      FirstOf gives (a :: xs) b

/-- The path that the first entry with a path gives; where no entry has one, it is empty. -/
def PathOf {α : Type} (gives : α → String → Prop) (xs : List α) (path : String) : Prop :=
  FirstOf gives xs path ∨ path = "" ∧ ∀ other, ¬FirstOf gives xs other

section

variable {α β : Type} {gives : α → β → Prop} {f : α → Option β}

theorem eq_none_iff_misses (hf : ∀ a b, f a = some b ↔ gives a b) {a : α} :
    f a = none ↔ ∀ b, ¬gives a b := by
  simp only [Option.eq_none_iff_forall_ne_some, ne_eq, hf]

theorem findSome?_eq_some_iff_firstOf (hf : ∀ a b, f a = some b ↔ gives a b) {xs : List α} {b : β} :
    xs.findSome? f = some b ↔ FirstOf gives xs b := by
  constructor
  · intro h
    induction xs with
    | nil => cases h
    | cons a xs ih =>
      rw [List.findSome?_cons] at h
      split at h
      · obtain rfl := Option.some.inj h
        exact .here ((hf _ _).1 ‹_›)
      · exact .there ((eq_none_iff_misses hf).1 ‹_›) (ih h)
  · intro h
    induction h with
    | here hb => rw [List.findSome?_cons, (hf _ _).2 hb]
    | there misses _ ih => rw [List.findSome?_cons, (eq_none_iff_misses hf).2 misses, ih]

theorem getD_findSome?_eq_iff_pathOf {gives : α → String → Prop} {f : α → Option String}
    (hf : ∀ a b, f a = some b ↔ gives a b) {xs : List α} {path : String} :
    (xs.findSome? f).getD "" = path ↔ PathOf gives xs path := by
  simp only [PathOf, ← findSome?_eq_some_iff_firstOf hf]
  cases xs.findSome? f with
  | none => simp [eq_comm]
  | some found => simp

end

namespace Script

inductive SaysText : Node → String → Prop
  | str {span : Span} {text : String} : SaysText (.str span text) text
  | template {span : Span} {text : String} : SaysText (.template span [text] []) text
  | wrap {span : Span} {inner : Node} {types : List Node} {text : String}
      (h : SaysText inner text) : SaysText (.wrap span inner types) text

inductive SaysKey : Node → String → Prop
  | ident {span : Span} {name : String} : SaysKey (.ident span name) name
  | str {span : Span} {text : String} : SaysKey (.str span text) text
  | number {span : Span} {text : String} : SaysKey (.number span text) text

/-- What is called by a name: a variable of that name, or the member of that name of anything. -/
inductive NamedCallee : Node → String → Prop
  | ident {span : Span} {name : String} : NamedCallee (.ident span name) name
  | member {span nameSpan : Span} {object : Node} {name : String} :
      NamedCallee (.member span object (.ident nameSpan name)) name
  | wrap {span : Span} {inner : Node} {types : List Node} {name : String}
      (h : NamedCallee inner name) : NamedCallee (.wrap span inner types) name

theorem constantText?_eq_some_iff {n : Node} {text : String} :
    n.constantText? = some text ↔ SaysText n text := by
  constructor
  · intro h
    induction n using Node.unwrap_induction with
    | wrap span inner types ih => exact .wrap (ih h)
    | plain n _ hn =>
      unfold Node.constantText? at h
      rw [hn] at h
      split at h
      · obtain rfl := Option.some.inj h
        exact .str
      · obtain rfl := Option.some.inj h
        exact .template
      · cases h
  · intro h
    induction h with
    | str | template => rfl
    | wrap _ ih => exact ih

theorem keyName?_eq_some_iff {n : Node} {name : String} :
    n.keyName? = some name ↔ SaysKey n name := by
  constructor
  · intro h
    unfold Node.keyName? at h
    split at h
    · obtain rfl := Option.some.inj h
      exact .ident
    · obtain rfl := Option.some.inj h
      exact .str
    · obtain rfl := Option.some.inj h
      exact .number
    · cases h
  · rintro (_ | _ | _) <;> rfl

theorem Call.name?_eq_some_iff {span : Span} {callee : Node} {args types : List Node}
    {name : String} :
    (Call.mk span callee args types).name? = some name ↔ NamedCallee callee name := by
  constructor
  · intro h
    induction callee using Node.unwrap_induction with
    | wrap span inner types ih => exact .wrap (ih h)
    | plain callee _ hcallee =>
      simp only [Call.name?, hcallee] at h
      split at h
      · obtain rfl := Option.some.inj h
        exact .ident
      · unfold Node.plainProperty? at h
        split at h
        · obtain rfl := Option.some.inj h
          exact .member
        · cases h
      · cases h
  · intro h
    induction h with
    | ident | member => rfl
    | wrap _ ih => exact ih

end Script

namespace Controller

open Script (Node Span Call SaysText SaysKey NamedCallee)

/-- A decorator with its name and arguments: a name alone, or a call of something with a name. -/
inductive Decorates : Node → String → List Node → Prop
  | bare {span : Span} {name : String} : Decorates (.ident span name) name []
  | call {span : Span} {callee : Node} {name : String} {args types : List Node}
      (h : NamedCallee callee name) : Decorates (.call span callee args types) name args
  | wrap {span : Span} {inner : Node} {types args : List Node} {name : String}
      (h : Decorates inner name args) : Decorates (.wrap span inner types) name args

theorem decoratorCall?_eq_some_iff {d : Node} {name : String} {args : List Node} :
    decoratorCall? d = some (name, args) ↔ Decorates d name args := by
  constructor
  · intro h
    induction d using Node.unwrap_induction with
    | wrap span inner types ih => exact .wrap (ih h)
    | plain d _ hd =>
      unfold decoratorCall? at h
      rw [hd] at h
      split at h
      · cases h
        exact .bare
      · obtain ⟨_, hname, hpair⟩ := Option.map_eq_some_iff.1 h
        cases hpair
        exact .call (Call.name?_eq_some_iff.1 hname)
      · cases h
  · intro h
    induction h with
    | bare => rfl
    | @call span callee name args types hcallee =>
      have hname : (Call.mk span callee args types).name? = some name :=
        Call.name?_eq_some_iff.2 hcallee
      simp only [decoratorCall?, Node.unwrap, hname, Option.map_some]
    | wrap _ ih => exact ih

inductive PathEntry : Node → String → Prop
  | keyValue {span : Span} {key value : Node} {path : String} (hkey : SaysKey key "path")
      (hvalue : SaysText value path) : PathEntry (.keyValue span key value) path

/-- An argument that has a path: a text, an array with a text in it, of which the first counts, or
an object with a text under the key `path`. -/
inductive SaysPath : Node → String → Prop
  | text {n : Node} {path : String} (h : SaysText n path) : SaysPath n path
  | array {span : Span} {elements : List Node} {path : String}
      (h : FirstOf (fun e => SaysText e.withoutSpread) elements path) :
      SaysPath (.array span elements) path
  | object {span : Span} {properties : List Node} {path : String}
      (h : FirstOf PathEntry properties path) : SaysPath (.object span properties) path
  | wrap {span : Span} {inner : Node} {types : List Node} {path : String}
      (h : SaysPath inner path) : SaysPath (.wrap span inner types) path

theorem entryPath?_eq_some_iff {n : Node} {path : String} :
    entryPath? n = some path ↔ PathEntry n path := by
  constructor
  · intro h
    unfold entryPath? at h
    split at h
    · obtain ⟨hkey, hvalue⟩ := Option.ite_none_right_eq_some.1 h
      exact .keyValue (Script.keyName?_eq_some_iff.1 hkey)
        (Script.constantText?_eq_some_iff.1 hvalue)
    · cases h
  · rintro ⟨hkey, hvalue⟩
    exact (if_pos (Script.keyName?_eq_some_iff.2 hkey)).trans
      (Script.constantText?_eq_some_iff.2 hvalue)

theorem argumentPath?_eq_some_iff {n : Node} {path : String} :
    argumentPath? n = some path ↔ SaysPath n path := by
  constructor
  · intro h
    induction n using Node.unwrap_induction with
    | wrap span inner types ih => exact .wrap (ih h)
    | plain n _ hn =>
      unfold argumentPath? at h
      rw [hn] at h
      split at h
      · exact .array
          ((findSome?_eq_some_iff_firstOf fun e _ => Script.constantText?_eq_some_iff).1 h)
      · exact .object ((findSome?_eq_some_iff_firstOf fun _ _ => entryPath?_eq_some_iff).1 h)
      · exact .text (Script.constantText?_eq_some_iff.1 h)
  · intro h
    induction h with
    | text h =>
      induction h with
      | str | template => rfl
      | wrap _ ih => exact ih
    | array h =>
      exact (findSome?_eq_some_iff_firstOf fun _ _ => Script.constantText?_eq_some_iff).2 h
    | object h => exact (findSome?_eq_some_iff_firstOf fun _ _ => entryPath?_eq_some_iff).2 h
    | wrap _ ih => exact ih

/-- The path in the arguments of a decorator, of which only the first is looked at. -/
def ArgumentPath (args : List Node) (path : String) : Prop :=
  PathOf (fun arg => SaysPath arg.withoutSpread) (args.take 1) path

theorem getD_decoratorPath?_eq_iff {args : List Node} {path : String} :
    (decoratorPath? args).getD "" = path ↔ ArgumentPath args path := by
  have hfirst : decoratorPath? args =
      (args.take 1).findSome? fun arg => argumentPath? arg.withoutSpread := by
    cases args with
    | nil => rfl
    | cons arg rest =>
      rw [List.take_succ_cons, List.take_zero, List.findSome?_singleton]
      rfl
  rw [hfirst]
  exact getD_findSome?_eq_iff_pathOf fun _ _ => argumentPath?_eq_some_iff

def verbNames : List (String × List Method) :=
  [("Get", [.get]), ("Post", [.post]), ("Put", [.put]), ("Patch", [.patch]),
    ("Delete", [.delete]), ("Head", [.head]), ("Options", [.options]),
    ("All", [.get, .post, .put, .patch, .delete])]

theorem mem_verbNames_iff {name : String} {verbs : List Method} :
    (name, verbs) ∈ verbNames ↔ verbsOf name ≠ [] ∧ verbsOf name = verbs := by
  constructor
  · intro h
    simp only [verbNames, List.mem_cons, Prod.mk.injEq, List.not_mem_nil, or_false] at h
    rcases h with ⟨rfl, rfl⟩ | ⟨rfl, rfl⟩ | ⟨rfl, rfl⟩ | ⟨rfl, rfl⟩ | ⟨rfl, rfl⟩ | ⟨rfl, rfl⟩ |
      ⟨rfl, rfl⟩ | ⟨rfl, rfl⟩ <;> exact ⟨List.cons_ne_nil _ _, rfl⟩
  · rintro ⟨hne, rfl⟩
    unfold verbsOf at hne ⊢
    split at hne <;> first | exact absurd rfl hne | decide

inductive VerbDecorator : Node → List Method × List Node → Prop
  | intro {d : Node} {name : String} {verbs : List Method} {args : List Node}
      (hname : (name, verbs) ∈ verbNames) (h : Decorates d name args) :
      VerbDecorator d (verbs, args)

theorem verbDecorator?_eq_findSome? (decorators : List Node) :
    verbDecorator? decorators = decorators.findSome? fun d =>
      (decoratorCall? d).bind fun call =>
        if verbsOf call.1 ≠ [] then some (verbsOf call.1, call.2) else none := by
  rw [verbDecorator?, ← List.head?_filterMap, List.filterMap_filterMap, List.head?_filterMap]
  congr 1
  funext d
  congr 1
  funext ⟨name, args⟩
  dsimp only
  cases verbsOf name <;> rfl

theorem verbDecorator?_eq_some_iff {decorators : List Node} {verbs : List Method × List Node} :
    verbDecorator? decorators = some verbs ↔ FirstOf VerbDecorator decorators verbs := by
  rw [verbDecorator?_eq_findSome?]
  refine findSome?_eq_some_iff_firstOf fun d ⟨verbs, args⟩ => ?_
  simp only [Option.bind_eq_some_iff, Option.ite_none_right_eq_some, Option.some.injEq]
  constructor
  · rintro ⟨⟨name, _⟩, hcall, hne, hpair⟩
    obtain ⟨hverbs, rfl⟩ := Prod.mk.inj hpair
    exact .intro (mem_verbNames_iff.2 ⟨hne, hverbs⟩) (decoratorCall?_eq_some_iff.1 hcall)
  · rintro ⟨hname, h⟩
    obtain ⟨hne, rfl⟩ := mem_verbNames_iff.1 hname
    exact ⟨_, decoratorCall?_eq_some_iff.2 h, hne, rfl⟩

theorem controllerPath?_eq_map (decorators : List Node) :
    controllerPath? decorators =
      (decorators.findSome? fun d => (decoratorCall? d).bind fun call =>
        if call.1 = "Controller" then some call.2 else none).map
          fun args => (decoratorPath? args).getD "" := by
  rw [controllerPath?, List.map_findSome?]
  congr 1
  funext d
  dsimp only [Function.comp_apply]
  split
  · rename_i args hcall
    rw [hcall]
    rfl
  · rename_i hother
    cases hcall : decoratorCall? d with
    | none => rfl
    | some call =>
      obtain ⟨name, args⟩ := call
      have hname : name ≠ "Controller" := by
        rintro rfl
        exact hother args hcall
      rw [Option.bind_some, if_neg hname, Option.map_none]

theorem controllerPath?_eq_some_iff {decorators : List Node} {path : String} :
    controllerPath? decorators = some path ↔
      ∃ args, FirstOf (Decorates · "Controller" ·) decorators args ∧ ArgumentPath args path := by
  rw [controllerPath?_eq_map, Option.map_eq_some_iff]
  refine exists_congr fun args => ?_
  rw [getD_decoratorPath?_eq_iff]
  refine and_congr_left' (findSome?_eq_some_iff_firstOf fun d args => ?_)
  simp only [Option.bind_eq_some_iff, Option.ite_none_right_eq_some, Option.some.injEq]
  constructor
  · rintro ⟨⟨name, _⟩, hcall, rfl, rfl⟩
    exact decoratorCall?_eq_some_iff.1 hcall
  · intro h
    exact ⟨_, decoratorCall?_eq_some_iff.2 h, rfl, rfl⟩

inductive SetsPrefix : Node → String → Prop
  | call {span : Span} {callee arg : Node} {args types : List Node} {path : String}
      (hcallee : NamedCallee callee "setGlobalPrefix") (harg : SaysText arg.withoutSpread path) :
      SetsPrefix (.call span callee (arg :: args) types) path

theorem globalPath?_eq_findSome? (p : Project) :
    globalPath? p = (p.files.flatMap fun f => f.module.preorder).findSome? fun n =>
      n.asCall?.bind fun c =>
        if c.name? = some "setGlobalPrefix" then firstText? c.args else none := by
  unfold globalPath? Project.calls Script.Module.calls
  simp only [← List.head?_filterMap, List.filterMap_flatMap, List.filterMap_map,
    List.filterMap_filter, List.filterMap_filterMap, decide_eq_true_eq, Function.comp_def]

theorem getD_globalPath?_eq_iff {p : Project} {path : String} :
    (globalPath? p).getD "" = path ↔
      PathOf SetsPrefix (p.files.flatMap fun f => f.module.preorder) path := by
  rw [globalPath?_eq_findSome?]
  refine getD_findSome?_eq_iff_pathOf fun n path => ?_
  simp only [Option.bind_eq_some_iff, Option.ite_none_right_eq_some]
  constructor
  · rintro ⟨⟨span, callee, args, types⟩, hcall, hname, htext⟩
    obtain ⟨arg, hhead, htext⟩ := Option.bind_eq_some_iff.1 htext
    obtain ⟨rest, rfl⟩ := List.head?_eq_some_iff.1 hhead
    obtain rfl := Node.asCall?_eq_some.1 hcall
    exact .call (Call.name?_eq_some_iff.1 hname) (Script.constantText?_eq_some_iff.1 htext)
  · rintro ⟨hcallee, harg⟩
    exact ⟨_, rfl, Call.name?_eq_some_iff.2 hcallee, Script.constantText?_eq_some_iff.2 harg⟩

end Controller

end RouteAtlas
