import RouteAtlas.Proofs.CanonicalPath
import RouteAtlas.Proofs.Decorators
import RouteAtlas.Proofs.HandlerPlaces
import RouteAtlas.Proofs.PlacedLists

set_option autoImplicit false

/-!
# Sites of controllers

A handler of a controller has a site: the number of its file, the position of its class in the tree
of the file, the number of the member in that class, and the number of the verb among those of the
member's decorator. A class is judged by its own decorators and gives its own members only, so it
makes no difference what it is nested in, or what is nested in it.
-/
namespace RouteAtlas.Controller

open Script (Node Span SaysKey)

structure ControllerClass where
  name : String
  path : String
  members : List Node

/-- A class with a decorator called `Controller`. The first of them has the path. -/
inductive IsController : Node → ControllerClass → Prop
  | intro {span : Span} {name : Option Node} {decorators members heritage args : List Node}
      {path : String} (hdecorator : FirstOf (Decorates · "Controller" ·) decorators args)
      (hpath : ArgumentPath args path) :
      IsController (.classDef span name decorators members heritage)
        ⟨(name.bind Node.name?).getD "", path, members⟩

structure HandlerMethod where
  name : String
  path : String
  verbs : List Method
  key : Span
  params : List Node

/-- A method with a constant name and a decorator for verbs, of which the first counts. -/
inductive IsHandlerMethod : Node → HandlerMethod → Prop
  | intro {span : Span} {key : Node} {params decorators rest args : List Node} {name path : String}
      {verbs : List Method} (hkey : SaysKey key name)
      (hdecorator : FirstOf VerbDecorator decorators (verbs, args))
      (hpath : ArgumentPath args path) :
      IsHandlerMethod (.method span key params decorators rest)
        ⟨name, path, verbs, key.span, params⟩

def controllerClass? : Node → Option ControllerClass
  | .classDef _ name decorators members _ =>
    (controllerPath? decorators).map fun path => ⟨(name.bind Node.name?).getD "", path, members⟩
  | _ => none

def handlerMethod? : Node → Option HandlerMethod
  | .method _ key params decorators _ => do
    let name ← key.keyName?
    let (verbs, args) ← verbDecorator? decorators
    return ⟨name, (decoratorPath? args).getD "", verbs, key.span, params⟩
  | _ => none

theorem controllerClass?_eq_some_iff {n : Node} {c : ControllerClass} :
    controllerClass? n = some c ↔ IsController n c := by
  constructor
  · intro h
    unfold controllerClass? at h
    split at h
    · obtain ⟨path, hpath, rfl⟩ := Option.map_eq_some_iff.1 h
      obtain ⟨args, hdecorator, hpath⟩ := controllerPath?_eq_some_iff.1 hpath
      exact .intro hdecorator hpath
    · cases h
  · rintro ⟨hdecorator, hpath⟩
    rw [controllerClass?, controllerPath?_eq_some_iff.2 ⟨_, hdecorator, hpath⟩]
    rfl

theorem handlerMethod?_eq_some_iff {n : Node} {m : HandlerMethod} :
    handlerMethod? n = some m ↔ IsHandlerMethod n m := by
  constructor
  · intro h
    unfold handlerMethod? at h
    split at h
    · obtain ⟨name, hkey, h⟩ := Option.bind_eq_some_iff.1 h
      obtain ⟨⟨verbs, args⟩, hverbs, h⟩ := Option.bind_eq_some_iff.1 h
      obtain rfl := Option.some.inj h
      exact .intro (Script.keyName?_eq_some_iff.1 hkey) (verbDecorator?_eq_some_iff.1 hverbs)
        (getD_decoratorPath?_eq_iff.1 rfl)
    · cases h
  · rintro ⟨hkey, hdecorator, hpath⟩
    obtain rfl := getD_decoratorPath?_eq_iff.2 hpath
    rw [handlerMethod?, Script.keyName?_eq_some_iff.2 hkey, verbDecorator?_eq_some_iff.2 hdecorator]
    rfl

def siteHandler (f : SourceFile) (globalPath : String) (c : ControllerClass) (m : HandlerMethod)
    (verb : Method) : Handler where
  name := some s!"{c.name}.{m.name}"
  path := RoutePath.spelling [globalPath, c.path, m.path]
  method := verb
  file := f.path
  line := f.lineOf m.key

theorem memberHandlers_eq (f : SourceFile) (globalPath : String) (c : ControllerClass) (n : Node) :
    memberHandlers ⟨f, globalPath, c.name, c.path⟩ n =
      (handlerMethod? n).toList.flatMap fun m =>
        m.verbs.map fun verb =>
          (parameterDecorators m.params).foldl describe (siteHandler f globalPath c m verb) := by
  cases n with
  | method span key params decorators rest =>
    simp only [memberHandlers, handlerMethod?, RoutePath.joinNormalized_eq_spelling]
    cases key.keyName? with
    | none => rfl
    | some name =>
      cases verbDecorator? decorators with
      | none => rfl
      | some verbs => exact (List.append_nil _).symm
  | _ => rfl

theorem classHandlers_eq (f : SourceFile) (globalPath : String) (n : Node) :
    (classHandlers f globalPath n).value =
      (controllerClass? n).toList.flatMap fun c =>
        c.members.flatMap (memberHandlers ⟨f, globalPath, c.name, c.path⟩) := by
  cases n with
  | classDef span name decorators members heritage =>
    simp only [classHandlers, controllerClass?]
    cases controllerPath? decorators with
    | none => rfl
    | some path => simp
  | _ => rfl

/-- The number of a file, the position of a class in its tree, the number of a member, and the
number of a verb. -/
abbrev Site := Nat × List Nat × Nat × Nat

def Site.Before : Site → Site → Prop :=
  Prod.Lex (· < ·) (Prod.Lex (· < ·) (Prod.Lex (· < ·) (· < ·)))

def GlobalPath (p : Project) : String → Prop :=
  PathOf SetsPrefix (p.files.flatMap fun f => f.module.preorder)

/-- The handler at a site. Its parameters can add headers, keys of the query and a body. -/
inductive Handles (p : Project) : Site → Handler → Prop
  | intro {i j k : Nat} {position : List Nat} {f : SourceFile} {n member : Node} {path : String}
      {c : ControllerClass} {m : HandlerMethod} {verb : Method} {headers query body}
      (hfile : p.files[i]? = some f) (hclass : f.module.tree.at? position = some n)
      (hcontroller : IsController n c) (hmember : c.members[j]? = some member)
      (hmethod : IsHandlerMethod member m) (hverb : m.verbs[k]? = some verb)
      (hglobal : GlobalPath p path)
      (hparams : (parameterDecorators m.params).foldl describe (siteHandler f path c m verb) =
        { siteHandler f path c m verb with headers, query, body }) :
      Handles p (i, position, j, k) { siteHandler f path c m verb with headers, query, body }

theorem memberHandlers_enumerated (f : SourceFile) (globalPath : String) (c : ControllerClass)
    (n : Node) :
    Enumerates (· < ·)
      (fun (k : Nat) x => ∃ m, handlerMethod? n = some m ∧ ∃ verb, m.verbs[k]? = some verb ∧
        (parameterDecorators m.params).foldl describe (siteHandler f globalPath c m verb) = x)
      (memberHandlers ⟨f, globalPath, c.name, c.path⟩ n) := by
  rw [memberHandlers_eq]
  exact .ofOption fun m _ => (Enumerates.getElem? m.verbs).map _

theorem classHandlers_enumerated (f : SourceFile) (globalPath : String) (n : Node) :
    Enumerates (Prod.Lex (· < ·) (· < ·))
      (fun (place : Nat × Nat) x => ∃ c, controllerClass? n = some c ∧
        ∃ member, c.members[place.1]? = some member ∧
          ∃ m, handlerMethod? member = some m ∧ ∃ verb, m.verbs[place.2]? = some verb ∧
            (parameterDecorators m.params).foldl describe (siteHandler f globalPath c m verb) = x)
      (classHandlers f globalPath n).value := by
  rw [classHandlers_eq]
  refine .ofOption fun c _ => ?_
  refine (Enumerates.getElem? c.members).flatMap (fun i a b ha hb => ?_) fun i member _ =>
    memberHandlers_enumerated f globalPath c member
  exact Option.some.inj (ha.symm.trans hb)

theorem fileHandlers_enumerated (f : SourceFile) (globalPath : String) :
    Enumerates (Prod.Lex (· < ·) (Prod.Lex (· < ·) (· < ·)))
      (fun (place : List Nat × Nat × Nat) x => ∃ n, f.module.tree.at? place.1 = some n ∧
        ∃ c, controllerClass? n = some c ∧ ∃ member, c.members[place.2.1]? = some member ∧
          ∃ m, handlerMethod? member = some m ∧ ∃ verb, m.verbs[place.2.2]? = some verb ∧
            (parameterDecorators m.params).foldl describe (siteHandler f globalPath c m verb) = x)
      (f.module.preorder.flatMap fun n => (classHandlers f globalPath n).value) := by
  -- the root of the tree is no class, so it makes no difference to the handlers
  have htree : (f.module.preorder.flatMap fun n => (classHandlers f globalPath n).value) =
      f.module.tree.preorder.flatMap fun n => (classHandlers f globalPath n).value := by
    rw [Node.preorder_eq, List.flatMap_cons]
    rfl
  rw [htree]
  refine f.module.tree.preorder_enumerated.flatMap (fun i a b ha hb => ?_) fun i n _ =>
    classHandlers_enumerated f globalPath n
  exact Option.some.inj (ha.symm.trans hb)

/-- The handlers stand at their sites, one at each site that has one, in the order of the sites. So
a class without a decorator `Controller` gives nothing, and a member gives to its own class only. -/
theorem handlers_enumerated_by_sites (p : Project) :
    Enumerates Site.Before (Handles p) (survey p).value := by
  have hfiles := (Enumerates.getElem? p.files).flatMap
    (fun i a b ha hb => Option.some.inj (ha.symm.trans hb))
    fun i f _ => fileHandlers_enumerated f ((globalPath? p).getD "")
  rw [survey_value]
  refine hfiles.congr fun ⟨i, position, j, k⟩ x => ?_
  constructor
  · rintro ⟨f, hfile, n, hclass, c, hcontroller, member, hmember, m, hmethod, verb, hverb, rfl⟩
    obtain ⟨headers, query, body, hparams⟩ := foldl_describe_frame
      (siteHandler f ((globalPath? p).getD "") c m verb) (parameterDecorators m.params)
    rw [hparams]
    exact .intro hfile hclass (controllerClass?_eq_some_iff.1 hcontroller) hmember
      (handlerMethod?_eq_some_iff.1 hmethod) hverb (getD_globalPath?_eq_iff.1 rfl) hparams
  · rintro ⟨hfile, hclass, hcontroller, hmember, hmethod, hverb, hglobal, hparams⟩
    obtain rfl := getD_globalPath?_eq_iff.2 hglobal
    exact ⟨_, hfile, _, hclass, _, controllerClass?_eq_some_iff.2 hcontroller, _, hmember, _,
      handlerMethod?_eq_some_iff.2 hmethod, _, hverb, hparams⟩

def nestedText : String :=
  "a.setGlobalPrefix('v')\n" ++
  "@Controller(\x7bpath: 'u'\x7d) class A \x7b\n" ++
  "  @Get(['[id]']) f() \x7b @Controller class B \x7b @All f() \x7b\x7d \x7d \x7d\n\x7d\n" ++
  "class C \x7b @Get f() \x7b return @n.Controller() class \x7b @Put() f() \x7b\x7d \x7d \x7d \x7d"

def nestedProject : Project :=
  (Project.loadFrom ⟨[], .dir [("p", .dir [("x.ts", .file nestedText.toUTF8)])]⟩ ["p"]).value

def nestedRoutes : List (Option String × Method × String) :=
  [(some "A.f", .get, "/v/u/:id"), (some "B.f", .get, "/v"), (some "B.f", .post, "/v"),
    (some "B.f", .put, "/v"), (some "B.f", .patch, "/v"), (some "B.f", .delete, "/v"),
    (some ".f", .put, "/v")]

/-- The class `B` stands in a method of `A`, and the class without a name in one of `C`. -/
theorem nested_controllers_enumerated :
    (survey nestedProject).value.map (fun x => (x.name, x.method, x.path)) = nestedRoutes ∧
      ∃ sites : List Site, sites.length = 7 ∧ sites.Pairwise Site.Before ∧
        ∀ site, site ∈ sites ↔ ∃ x, Handles nestedProject site x := by
  have hroutes : (survey nestedProject).value.map (fun x => (x.name, x.method, x.path)) =
      nestedRoutes := by
    decide +kernel
  obtain ⟨sites, horder, hentries, hsites⟩ := handlers_enumerated_by_sites nestedProject
  refine ⟨hroutes, sites, ?_, horder, hsites⟩
  rw [hentries.length_eq, ← List.length_map, hroutes]
  rfl

end RouteAtlas.Controller
