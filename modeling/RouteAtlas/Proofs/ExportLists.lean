import RouteAtlas.Proofs.LoadedProject

set_option autoImplicit false

namespace RouteAtlas

open Script

namespace ModuleIndex

/-- An export list whose names are those of the module itself. -/
def isLocalList : Item → Bool
  | .exportNamed _ _ _ none _ => true
  | _ => false

/-- The items of a module with the lists of local names moved. The lists keep their order among
themselves, and so do all other items. -/
structure ListsMoved (items items' : List Item) : Prop where
  lists : items'.filter isLocalList = items.filter isLocalList
  others : (items'.filter fun item => !isLocalList item) = items.filter fun item => !isLocalList item

structure Binding where
  name : String
  /-- The name under which the declaration is entered. -/
  title : String
  span : Span
  kind : DeclKind

def Binding.declaration (file : Nat) (b : Binding) : Declaration := ⟨file, b.title, b.span, b.kind⟩

def importedFrom (s : ImportSpecifier) : ImportedName :=
  match s.kind with
  | .named => importedName ((s.imported.map specifierName).getD (specifierName s.localName))
  | .default => .default
  | .namespace => .namespace

/-- What an item binds, in the order of its text: variables, functions and classes, exported or not,
imported values, and a default export that has a name of its own. -/
def itemBindings : Item → List Binding
  | .statement node => (declared node).map fun (name, span, kind) => ⟨name, name, span, kind⟩
  | .exportDecl _ node => (declared node).map fun (name, span, kind) => ⟨name, name, span, kind⟩
  | .importDecl _ false source specifiers _ =>
    (specifiers.filter fun s => !s.typeOnly).map fun s =>
      ⟨specifierName s.localName, specifierName s.localName, s.localName.span,
        .imported source (importedFrom s)⟩
  | .exportDefaultDecl span (.function name _) =>
    name.toList.map fun name => ⟨name, "default", span, .noValue⟩
  | .exportDefaultDecl span (.classLike name _) =>
    name.toList.map fun name => ⟨name, "default", span, .noValue⟩
  | _ => []

/-- A name of the module and what it is exported as, for each name of a list that is not marked as a
list of types. A mark on a single name is read past. -/
def localNames : Item → List (String × String)
  | .exportNamed _ false specifiers none _ =>
    specifiers.filterMap fun
      | .named _ _ orig exported =>
        some (specifierName orig, (exported.map specifierName).getD (specifierName orig))
      | .namespace _ => none
  | _ => []

/-- Those of the local names that are not marked as types themselves. -/
def valueNames : Item → List (String × String)
  | .exportNamed _ false specifiers none _ =>
    specifiers.filterMap fun
      | .named _ false orig exported =>
        some (specifierName orig, (exported.map specifierName).getD (specifierName orig))
      | _ => none
  | _ => []

def Binds (items : List Item) (name : String) : Prop :=
  ∃ item ∈ items, ∃ b ∈ itemBindings item, b.name = name

theorem binds_iff {items : List Item} {name : String} :
    Binds items name ↔ name ∈ items.flatMap fun item => (itemBindings item).map Binding.name := by
  simp [Binds]

/-- `b` is the last binding of a name in the text of a module, and `id` is the position of its
declaration: behind those that were there before the module, those of the items before, and those
that its item makes before it. -/
inductive LastBinding (file : Nat) (decls : List Declaration) (name : String) :
    List Item → Nat → Binding → Prop
  | intro {before after : List Item} {item : Item} {sooner later : List Binding} {b : Binding}
      (hitem : itemBindings item = sooner ++ b :: later) (hname : b.name = name)
      (hlater : ∀ c ∈ later, c.name ≠ name) (hafter : ¬Binds after name) :
      LastBinding file decls name (before ++ item :: after)
        ((ofItems file decls before).1.length + sooner.length) b

/-! ## Lists declare nothing -/

def isLocalExport : IndexEffect → Bool
  | .localExport _ _ => true
  | _ => false

theorem isLocalExport_of_mem {item : Item} {effect : IndexEffect} (h : effect ∈ effects item) :
    isLocalExport effect = isLocalList item := by
  unfold effects at h
  split at h
  case h_1 =>
    obtain ⟨_, _, rfl⟩ := List.mem_map.1 h
    rfl
  case h_2 =>
    obtain ⟨_, _, rfl⟩ := List.mem_map.1 h
    rfl
  case h_3 =>
    obtain ⟨s, _, h⟩ := List.mem_filterMap.1 h
    unfold importEffect? at h
    split at h <;> cases h
    rfl
  case h_4 source _ =>
    obtain ⟨s, _, h⟩ := List.mem_filterMap.1 h
    cases s <;> cases source <;> cases h <;> rfl
  case h_10 => cases h
  all_goals
    cases List.mem_singleton.1 h
    rfl

theorem filter_effects (keep : Bool) (items : List Item) :
    (items.flatMap effects).filter (fun effect => isLocalExport effect == keep) =
      (items.filter fun item => isLocalList item == keep).flatMap effects := by
  induction items with
  | nil => rfl
  | cons item rest ih =>
    have hsame : ∀ effect ∈ effects item,
        (isLocalExport effect == keep) = (isLocalList item == keep) :=
      fun effect heffect => by rw [isLocalExport_of_mem heffect]
    rw [List.flatMap_cons, List.filter_append, List.filter_congr hsame, ih, List.filter_cons]
    cases isLocalList item == keep <;> simp

theorem foldl_enter_filter (file : Nat) (es : List IndexEffect)
    (state : List Declaration × ModuleIndex) :
    es.foldl (enter file) state =
      (es.filter fun effect => isLocalExport effect == false).foldl (enter file) state := by
  induction es generalizing state with
  | nil => rfl
  | cons effect rest ih => cases effect <;> exact ih _

theorem foldl_enterLocal_filter (es : List IndexEffect) (index : ModuleIndex) :
    es.foldl enterLocal index =
      (es.filter fun effect => isLocalExport effect == true).foldl enterLocal index := by
  induction es generalizing index with
  | nil => rfl
  | cons effect rest ih => cases effect <;> exact ih _

def entered (file : Nat) (decls : List Declaration) (items : List Item) :
    List Declaration × ModuleIndex :=
  (items.flatMap effects).foldl (enter file) (decls, {})

theorem ofItems_eq (file : Nat) (decls : List Declaration) (items : List Item) :
    ofItems file decls items = ((entered file decls items).1,
      (items.flatMap effects).foldl enterLocal (entered file decls items).2) := rfl

theorem listsMoved_past {lists others : List Item} (hlists : ∀ item ∈ lists, isLocalList item = true)
    (hothers : ∀ item ∈ others, isLocalList item = false) (before after : List Item) :
    ListsMoved (before ++ (lists ++ others) ++ after) (before ++ (others ++ lists) ++ after) := by
  have hkept : lists.filter isLocalList = lists := List.filter_eq_self.2 hlists
  have hnone : others.filter isLocalList = [] := List.filter_eq_nil_iff.2 (by simpa using hothers)
  have hnone' : (lists.filter fun item => !isLocalList item) = [] :=
    List.filter_eq_nil_iff.2 (by simpa using hlists)
  have hkept' : (others.filter fun item => !isLocalList item) = others :=
    List.filter_eq_self.2 (by simpa using hothers)
  constructor
  · simp only [List.filter_append, hkept, hnone, List.nil_append, List.append_nil]
  · simp only [List.filter_append, hkept', hnone', List.nil_append, List.append_nil]

theorem ofItems_of_listsMoved {items items' : List Item} (h : ListsMoved items items') (file : Nat)
    (decls : List Declaration) : ofItems file decls items' = ofItems file decls items := by
  have hothers : entered file decls items' = entered file decls items := by
    rw [entered, entered, foldl_enter_filter, filter_effects,
      foldl_enter_filter file (items.flatMap effects), filter_effects]
    simp only [beq_false, h.others]
  rw [ofItems_eq, ofItems_eq, hothers, foldl_enterLocal_filter, filter_effects,
    foldl_enterLocal_filter (items.flatMap effects), filter_effects]
  simp only [beq_true, h.lists]

/-! ## Bindings -/

def numbered (bs : List Binding) (first : Nat) : NameMap :=
  ((bs.zipIdx first).map fun (b, id) => (b.name, id)).reverse

theorem numbered_append (bs cs : List Binding) (first : Nat) :
    numbered (bs ++ cs) first = numbered cs (first + bs.length) ++ numbered bs first := by
  simp [numbered, List.zipIdx_append]

theorem lookup_numbered_eq_none {bs : List Binding} {name : String} (h : ∀ b ∈ bs, b.name ≠ name)
    (first : Nat) : (numbered bs first).lookup name = none := by
  rw [List.lookup_eq_none_iff]
  intro entry hentry
  obtain ⟨⟨b, id⟩, hb, rfl⟩ := List.mem_map.1 (List.mem_reverse.1 hentry)
  have hne : b.name ≠ name := h b (List.fst_mem_of_mem_zipIdx hb)
  simpa using hne.symm

theorem filterMap_importEffect? (source : String) (specifiers : List ImportSpecifier) :
    specifiers.filterMap (importEffect? source) =
      (specifiers.filter fun s => !s.typeOnly).map fun s =>
        .declare (specifierName s.localName) s.localName.span (.imported source (importedFrom s))
          [specifierName s.localName] [] := by
  induction specifiers with
  | nil => rfl
  | cons s rest ih =>
    cases htype : s.typeOnly with
    | true => simp [importEffect?, htype, ih]
    | false =>
      have heffect : importEffect? source s =
          some (.declare (specifierName s.localName) s.localName.span
            (.imported source (importedFrom s)) [specifierName s.localName] []) := by
        rw [importEffect?, htype]
        rfl
      rw [List.filterMap_cons, heffect, ih, List.filter_cons_of_pos (by simp [htype]),
        List.map_cons]

theorem bound_of_exportEffect? {span : Span} {source : Option String} {s : ExportSpecifier}
    {name : String} {place : Span} {kind : DeclKind} {bound exported : List String}
    (h : exportEffect? span source s = some (.declare name place kind bound exported)) :
    bound = [] := by
  cases s <;> cases source <;> cases h <;> rfl

theorem lookup_numbered {sooner later : List Binding} {b : Binding} {name : String}
    (hname : b.name = name) (hlater : ∀ c ∈ later, c.name ≠ name) (first : Nat) :
    (numbered (sooner ++ b :: later) first).lookup name = some (first + sooner.length) := by
  have hthis : numbered (b :: later) (first + sooner.length) =
      numbered later (first + sooner.length + 1) ++ [(b.name, first + sooner.length)] :=
    numbered_append [b] later _
  rw [numbered_append, hthis, List.lookup_append, List.lookup_append,
    lookup_numbered_eq_none hlater, hname]
  simp

/-- An item that binds makes one declaration for each binding and no other. -/
theorem effects_cases (item : Item) :
    (∃ exported : Binding → List String, effects item = (itemBindings item).map fun b =>
      .declare b.title b.span b.kind [b.name] (exported b)) ∨
    itemBindings item = [] ∧ ∀ name span kind bound exported,
      .declare name span kind bound exported ∈ effects item → bound = [] := by
  cases item with
  | importDecl span typeOnly source specifiers attributes =>
    cases typeOnly with
    | true => exact .inl ⟨fun _ => [], rfl⟩
    | false =>
      exact .inl ⟨fun _ => [], by simp [effects, itemBindings, filterMap_importEffect?]⟩
  | exportDecl span decl => exact .inl ⟨fun b => [b.name], by simp [effects, itemBindings]⟩
  | exportNamed span typeOnly specifiers source attributes =>
    refine .inr ⟨rfl, fun name _ kind bound exported h => ?_⟩
    cases typeOnly with
    | true => cases h
    | false =>
      obtain ⟨s, _, h⟩ := List.mem_filterMap.1 h
      exact bound_of_exportEffect? h
  | exportAll span typeOnly source attributes =>
    refine .inr ⟨rfl, fun name _ kind bound exported h => ?_⟩
    cases typeOnly <;> simp [effects] at h
  | exportDefaultDecl span decl =>
    cases decl with
    | function name node =>
      cases name with
      | none => exact .inr ⟨rfl, by simp +contextual [effects]⟩
      | some name => exact .inl ⟨fun _ => ["default"], rfl⟩
    | classLike name node =>
      cases name with
      | none => exact .inr ⟨rfl, by simp +contextual [effects]⟩
      | some name => exact .inl ⟨fun _ => ["default"], rfl⟩
    | interface node => exact .inl ⟨fun _ => [], rfl⟩
  | exportDefaultExpr span expr => exact .inr ⟨rfl, by simp +contextual [effects]⟩
  | exportAssign span expr => exact .inr ⟨rfl, by simp +contextual [effects]⟩
  | statement node => exact .inl ⟨fun _ => [], by simp [effects, itemBindings]⟩
  | other span parts => exact .inl ⟨fun _ => [], rfl⟩

theorem foldl_enter_declares (file : Nat) (exported : Binding → List String) (bs : List Binding)
    (decls : List Declaration) (index : ModuleIndex) :
    ((bs.map fun b => .declare b.title b.span b.kind [b.name] (exported b)).foldl (enter file)
        (decls, index)).2.bindings = numbered bs decls.length ++ index.bindings := by
  induction bs generalizing decls index with
  | nil => rfl
  | cons b rest ih =>
    have hfirst : numbered (b :: rest) decls.length =
        numbered rest (decls.length + 1) ++ [(b.name, decls.length)] :=
      numbered_append [b] rest decls.length
    rw [List.map_cons, List.foldl_cons, enter, ih, hfirst, List.length_append]
    simp [bind]

theorem foldl_enter_unbound (file : Nat) {es : List IndexEffect}
    (h : ∀ name span kind bound exported,
      .declare name span kind bound exported ∈ es → bound = [])
    (decls : List Declaration) (index : ModuleIndex) :
    (es.foldl (enter file) (decls, index)).2.bindings = index.bindings := by
  induction es generalizing decls index with
  | nil => rfl
  | cons effect rest ih =>
    have hrest := fun name span kind bound exported hmem =>
      h name span kind bound exported (List.mem_cons_of_mem _ hmem)
    rw [List.foldl_cons]
    cases effect with
    | declare name span kind bound exported =>
      rw [enter, ih hrest, h name span kind bound exported List.mem_cons_self]
      rfl
    | star specifier => exact ih hrest _ _
    | localExport name exported => exact ih hrest _ _

theorem foldl_effects_bindings (file : Nat) (item : Item) (decls : List Declaration)
    (index : ModuleIndex) :
    ((effects item).foldl (enter file) (decls, index)).2.bindings =
      numbered (itemBindings item) decls.length ++ index.bindings := by
  rcases effects_cases item with ⟨exported, heffects⟩ | ⟨hnone, hbound⟩
  · rw [heffects, foldl_enter_declares]
  · rw [foldl_enter_unbound file hbound, hnone]
    rfl

theorem Binds.cons_iff {item : Item} {rest : List Item} {name : String} :
    Binds (item :: rest) name ↔ (∃ b ∈ itemBindings item, b.name = name) ∨ Binds rest name := by
  simp [Binds]

theorem lookup_of_not_binds (file : Nat) {items : List Item} {name : String}
    (h : ¬Binds items name) (state : List Declaration × ModuleIndex) :
    (((items.flatMap effects).foldl (enter file) state).2.bindings.lookup name) =
      state.2.bindings.lookup name := by
  induction items generalizing state with
  | nil => rfl
  | cons item rest ih =>
    rw [Binds.cons_iff, not_or] at h
    have hitem : ∀ b ∈ itemBindings item, b.name ≠ name := fun b hb hname => h.1 ⟨b, hb, hname⟩
    rw [List.flatMap_cons, List.foldl_append, ih h.2, foldl_effects_bindings, List.lookup_append,
      lookup_numbered_eq_none hitem, Option.none_or]

theorem filterMap_declaration? (file : Nat) {item : Item} (h : itemBindings item ≠ []) :
    (effects item).filterMap (declaration? file) =
      (itemBindings item).map (Binding.declaration file) := by
  rcases effects_cases item with ⟨exported, heffects⟩ | ⟨hnone, _⟩
  · rw [heffects, List.filterMap_map]
    exact congrFun List.filterMap_eq_map _
  · exact absurd hnone h

/-- When all items are entered a name stands for its last binding. -/
theorem LastBinding.entered {file : Nat} {decls : List Declaration} {name : String}
    {items : List Item} {id : Nat} {b : Binding} (h : LastBinding file decls name items id b) :
    (entered file decls items).2.bindings.lookup name = some id ∧
      (entered file decls items).1[id]? = some (b.declaration file) := by
  obtain @⟨before, after, item, sooner, later, b, hitem, hname, hlater, hafter⟩ := h
  have hsplit : ModuleIndex.entered file decls (before ++ item :: after) =
      (after.flatMap effects).foldl (enter file)
        ((effects item).foldl (enter file) (ModuleIndex.entered file decls before)) := by
    simp only [ModuleIndex.entered, List.flatMap_append, List.flatMap_cons, List.foldl_append]
  rw [hsplit]
  constructor
  · rw [lookup_of_not_binds file hafter, foldl_effects_bindings, hitem, List.lookup_append,
      lookup_numbered hname hlater]
    rfl
  · have hdecls : (effects item).filterMap (declaration? file) =
        (sooner ++ b :: later).map (Binding.declaration file) := by
      rw [← hitem]
      exact filterMap_declaration? file (by simp [hitem])
    have hitself (state : List Declaration × ModuleIndex) (es : List IndexEffect) :
        (es.foldl (enter file) state).1 = state.1 ++ es.filterMap (declaration? file) :=
      foldl_enter_decls file es state.1 state.2
    rw [hitself, hitself, hdecls, ofItems_eq, List.append_assoc,
      List.getElem?_append_right (Nat.le_add_right _ _), Nat.add_sub_cancel_left]
    simp

theorem exists_last {α : Type} {p : α → Prop} {as : List α} (h : ∃ a ∈ as, p a) :
    ∃ before a after, as = before ++ a :: after ∧ p a ∧ ∀ c ∈ after, ¬p c := by
  induction as with
  | nil => simp at h
  | cons a rest ih =>
    by_cases hrest : ∃ c ∈ rest, p c
    · obtain ⟨before, c, after, rfl, hc⟩ := ih hrest
      exact ⟨a :: before, c, after, rfl, hc⟩
    · have ha : p a := by
        obtain ⟨c, hc, hp⟩ := h
        rcases List.mem_cons.1 hc with rfl | hc
        · exact hp
        · exact absurd ⟨c, hc, hp⟩ hrest
      exact ⟨[], a, rest, rfl, ha, fun c hc hp => hrest ⟨c, hc, hp⟩⟩

theorem exists_lastBinding (file : Nat) (decls : List Declaration) {items : List Item}
    {name : String} (h : Binds items name) : ∃ id b, LastBinding file decls name items id b := by
  obtain ⟨before, item, after, rfl, hitem, hafter⟩ := exists_last h
  obtain ⟨sooner, b, later, hitem, hname, hlater⟩ := exists_last hitem
  exact ⟨_, b, .intro hitem hname hlater fun ⟨item, hmem, hbinds⟩ => hafter item hmem hbinds⟩

theorem lookup_bindings_eq_none (file : Nat) (decls : List Declaration) {items : List Item}
    {name : String} (h : ¬Binds items name) :
    (entered file decls items).2.bindings.lookup name = none :=
  lookup_of_not_binds file h (decls, {})

/-! ## Exports -/

def localName? : IndexEffect → Option (String × String)
  | .localExport name exported => some (name, exported)
  | _ => none

theorem filterMap_localName? (item : Item) :
    (effects item).filterMap localName? = localNames item := by
  cases hlist : isLocalList item with
  | true =>
    unfold isLocalList at hlist
    split at hlist
    · rename_i span typeOnly specifiers attributes
      cases typeOnly with
      | true => rfl
      | false =>
        rw [effects, localNames, List.filterMap_filterMap]
        congr 1
        funext s
        cases s <;> rfl
    · cases hlist
  | false =>
    have hnone : localNames item = [] := by
      unfold localNames
      split
      · cases hlist
      · rfl
    rw [hnone, List.filterMap_eq_nil_iff]
    intro effect heffect
    have hother : isLocalExport effect = false := by rw [isLocalExport_of_mem heffect, hlist]
    cases effect with
    | localExport name exported => cases hother
    | declare name span kind bound exported => rfl
    | star specifier => rfl

def exportName (index : ModuleIndex) (s : String × String) : ModuleIndex :=
  enterLocal index (.localExport s.1 s.2)

theorem foldl_enterLocal_eq (items : List Item) (index : ModuleIndex) :
    (items.flatMap effects).foldl enterLocal index =
      (items.flatMap localNames).foldl exportName index := by
  have hnames (es : List IndexEffect) (index : ModuleIndex) :
      es.foldl enterLocal index = (es.filterMap localName?).foldl exportName index := by
    induction es generalizing index with
    | nil => rfl
    | cons effect rest ih => cases effect <;> exact ih _
  rw [hnames, List.filterMap_flatMap]
  simp only [filterMap_localName?]

theorem exportName_bindings (index : ModuleIndex) (s : String × String) :
    (exportName index s).bindings = index.bindings := by
  rw [exportName, enterLocal]
  split <;> rfl

theorem foldl_exportName_bindings (names : List (String × String)) (index : ModuleIndex) :
    (names.foldl exportName index).bindings = index.bindings := by
  induction names generalizing index with
  | nil => rfl
  | cons s rest ih => rw [List.foldl_cons, ih, exportName_bindings]

theorem exportName_of_bound {index : ModuleIndex} {name x : String} {id : Nat}
    (h : index.bindings.lookup name = some id) :
    (exportName index (name, x)).exports = (x, id) :: index.exports := by
  simp [exportName, enterLocal, h]

theorem lookup_exportName {index : ModuleIndex} {s : String × String} {x : String}
    (h : s.2 = x → index.bindings.lookup s.1 = none) :
    (exportName index s).exports.lookup x = index.exports.lookup x := by
  cases hbound : index.bindings.lookup s.1 with
  | none => simp [exportName, enterLocal, hbound]
  | some id =>
    have hne : (x == s.2) = false := by
      rw [beq_eq_false_iff_ne]
      rintro rfl
      rw [h rfl] at hbound
      cases hbound
    rw [exportName_of_bound hbound, List.lookup_cons, hne]

theorem lookup_foldl_exportName {names : List (String × String)} {index : ModuleIndex} {x : String}
    (h : ∀ s ∈ names, s.2 = x → index.bindings.lookup s.1 = none) :
    (names.foldl exportName index).exports.lookup x = index.exports.lookup x := by
  induction names generalizing index with
  | nil => rfl
  | cons s rest ih =>
    have hrest : ∀ t ∈ rest, t.2 = x → (exportName index s).bindings.lookup t.1 = none := by
      rw [exportName_bindings]
      exact fun t ht => h t (List.mem_cons_of_mem _ ht)
    rw [List.foldl_cons, ih hrest, lookup_exportName (h s List.mem_cons_self)]

/-- Of all names of the module that lists export as `x` the last one that is bound wins, and `x`
stands for its last binding. -/
theorem lookup_export {file : Nat} {decls : List Declaration} {items : List Item}
    {before after : List (String × String)} {name x : String} {id : Nat}
    (hnames : items.flatMap localNames = before ++ (name, x) :: after)
    (hbound : (entered file decls items).2.bindings.lookup name = some id)
    (hafter : ∀ s ∈ after, s.2 = x → ¬Binds items s.1) :
    (ofItems file decls items).2.exports.lookup x = some id := by
  rw [ofItems_eq, foldl_enterLocal_eq, hnames, List.foldl_append, List.foldl_cons]
  rw [lookup_foldl_exportName, exportName_of_bound, List.lookup_cons_self]
  · rwa [foldl_exportName_bindings]
  · intro s hs hx
    rw [exportName_bindings, foldl_exportName_bindings]
    exact lookup_bindings_eq_none file decls (hafter s hs hx)

/-- Lists of local names may stand anywhere in a module. What such a list exports as `x` is the last
top-level binding of the name in the text of the module, unless a list behind it exports another
bound name as `x`. That a single name is marked as a type is read past here, so a type that is bound
like a value (a class, say) takes the place of a value that is exported under the same name. -/
theorem export_lists_stand_anywhere (file : Nat) (decls : List Declaration) (items : List Item) :
    (∀ items', ListsMoved items items' → ofItems file decls items' = ofItems file decls items) ∧
    ∀ (before after : List (String × String)) (name x : String),
      items.flatMap localNames = before ++ (name, x) :: after → Binds items name →
      (∀ s ∈ after, s.2 = x → ¬Binds items s.1) →
      ∃ id b, LastBinding file decls name items id b ∧
        (ofItems file decls items).1[id]? = some (b.declaration file) ∧
        (ofItems file decls items).2.exports.lookup x = some id := by
  refine ⟨fun items' h => ofItems_of_listsMoved h file decls, ?_⟩
  intro before after name x hnames hbinds hafter
  obtain ⟨id, b, hlast⟩ := exists_lastBinding file decls hbinds
  obtain ⟨hbound, hdeclared⟩ := hlast.entered
  exact ⟨id, b, hlast, hdeclared, lookup_export hnames hbound hafter⟩

def earlyList : String :=
  "export \x7b a as default, b, c as a \x7d\nimport \x7b c \x7d from './c'\nvar a = 1, a\n" ++
    "export function b() \x7b\x7d\nvar a = \x7b x: 1 \x7d"

/-- A list that comes first, with a name that is declared three times behind it, stands for the third
declaration, and it may as well come last. -/
theorem early_list_exports_last :
    ∃ m, parseModule? (Dialect.ofExtension (some "ts")) earlyList = some m ∧
      ListsMoved m.items (m.items.tail ++ m.items.take 1) ∧
      ofItems 0 [] (m.items.tail ++ m.items.take 1) = ofItems 0 [] m.items ∧
      Binds m.items "a" ∧ ∃ id b, LastBinding 0 [] "a" m.items id b ∧
        (ofItems 0 [] m.items).2.exports.lookup "default" = some id ∧ id = 4 := by
  have hview : (parseModule? (Dialect.ofExtension (some "ts")) earlyList).map (fun m =>
      (m.items.map isLocalList, m.items.flatMap localNames,
        m.items.flatMap fun item => (itemBindings item).map Binding.name,
        (ofItems 0 [] m.items).2.exports.lookup "default")) =
      some ([true, false, false, false, false], [("a", "default"), ("b", "b"), ("c", "a")],
        ["c", "a", "a", "b", "a"], some 4) := by
    decide +kernel
  obtain ⟨m, hm, hview⟩ := Option.map_eq_some_iff.1 hview
  simp only [Prod.mk.injEq] at hview
  obtain ⟨hlists, hnames, hbindings, hdefault⟩ := hview
  refine ⟨m, hm, ?_⟩
  have hbinds : Binds m.items "a" := by simp [binds_iff, hbindings]
  have hmoved : ListsMoved m.items (m.items.tail ++ m.items.take 1) := by
    cases hitems : m.items with
    | nil => simp [hitems] at hlists
    | cons first rest =>
      rw [hitems] at hlists
      simp only [List.map_cons, List.cons.injEq] at hlists
      obtain ⟨hfirst, hrest⟩ := hlists
      have hothers : ∀ item ∈ rest, isLocalList item = false := by
        intro item hitem
        have hmem := List.mem_map_of_mem (f := isLocalList) hitem
        rw [hrest] at hmem
        simpa using hmem
      have hlist : ∀ item ∈ [first], isLocalList item = true := by simpa using hfirst
      simpa using listsMoved_past hlist hothers [] []
  obtain ⟨hsame, hexport⟩ := export_lists_stand_anywhere 0 [] m.items
  obtain ⟨id, b, hlast, _, hid⟩ := hexport [] _ "a" "default" hnames hbinds (by simp)
  exact ⟨hmoved, hsame _ hmoved, hbinds, id, b, hlast, hid,
    Option.some.inj (hid.symm.trans hdefault)⟩

def markedList : String :=
  "const user = \x7b\x7d\nclass User \x7b\x7d\nexport \x7b user as User, type User \x7d"

/-- One name is exported that is not marked as a type, and it stands for the class that is marked. -/
theorem marked_class_exported :
    ∃ m, parseModule? (Dialect.ofExtension (some "ts")) markedList = some m ∧
      m.items.flatMap valueNames = [("user", "User")] ∧ Binds m.items "user" ∧
      ∃ id b, LastBinding 0 [] "user" m.items id b ∧
        (ofItems 0 [] m.items).2.exports.lookup "User" ≠ some id := by
  have hview : (parseModule? (Dialect.ofExtension (some "ts")) markedList).map (fun m =>
      (m.items.flatMap valueNames,
        m.items.flatMap fun item => (itemBindings item).map Binding.name,
        (entered 0 [] m.items).2.bindings.lookup "user",
        (ofItems 0 [] m.items).2.exports.lookup "User")) =
      some ([("user", "User")], ["user", "User"], some 0, some 1) := by
    decide +kernel
  obtain ⟨m, hm, hview⟩ := Option.map_eq_some_iff.1 hview
  simp only [Prod.mk.injEq] at hview
  obtain ⟨hnames, hbindings, huser, hexport⟩ := hview
  have hbinds : Binds m.items "user" := by simp [binds_iff, hbindings]
  obtain ⟨id, b, hlast⟩ := exists_lastBinding 0 [] hbinds
  obtain rfl : id = 0 := Option.some.inj (hlast.entered.1.symm.trans huser)
  exact ⟨m, hm, hnames, hbinds, 0, b, hlast, by simp [hexport]⟩

end ModuleIndex

end RouteAtlas
