import RouteAtlas.Controller.Survey
import RouteAtlas.FileRouter.Survey
import RouteAtlas.Proofs.ProcedurePlaces

set_option autoImplicit false

namespace RouteAtlas

open Script

namespace FileRouter

theorem firstOfEach_subset {α : Type} (verb : α → Method) (seen : List Method) (as : List α) :
    firstOfEach verb seen as ⊆ as := by
  induction as generalizing seen with
  | nil => exact List.Subset.refl _
  | cons a rest ih =>
    unfold firstOfEach
    split
    · exact List.Subset.trans (ih seen) (List.subset_cons_self _ _)
    · exact List.cons_subset_cons _ (ih _)

theorem declaredVerbs_span {exportSpan : Span} {node : Node} {verb : Method × Span}
    (h : verb ∈ declaredVerbs exportSpan node) :
    verb.2 = exportSpan ∨ ∃ n ∈ node.preorder, n.span = verb.2 := by
  unfold declaredVerbs at h
  split at h
  · obtain ⟨method, _, rfl⟩ := Option.map_eq_some_iff.1 (Option.mem_toList.1 h)
    exact .inl rfl
  · obtain ⟨d, hd, h⟩ := List.mem_filterMap.1 h
    split at h
    · obtain ⟨method, _, rfl⟩ := Option.map_eq_some_iff.1 h
      exact .inr ⟨_, Node.child_mem_preorder hd, rfl⟩
    · cases h
  · cases h

theorem itemVerbs_span {m : Module} {item : Item} {verb : Method × Span} (hitem : item ∈ m.items)
    (h : verb ∈ itemVerbs item) : verb.2 ∈ m.spans := by
  unfold itemVerbs at h
  split at h
  · rename_i span decl
    rcases declaredVerbs_span h with heq | ⟨n, hn, heq⟩
    · rw [heq]
      exact Module.item_span_mem_spans hitem
    · rw [← heq]
      have hdecl := Module.mem_preorder_of_item hitem (n := decl) (by simp [Item.nodes])
      exact Module.span_mem_spans (Module.mem_preorder_of_mem hdecl hn)
  · rename_i span specifiers source attributes
    obtain ⟨s, hs, h⟩ := List.mem_filterMap.1 h
    obtain ⟨⟨name, span'⟩, hname, h⟩ := Option.bind_eq_some_iff.1 h
    obtain ⟨method, _, h⟩ := Option.bind_eq_some_iff.1 h
    cases h
    refine Module.specifier_span_mem_spans hitem (List.mem_filterMap.2 ⟨s, hs, ?_⟩)
    cases s with
    | named specifierSpan orig exported =>
      obtain ⟨_, _, heq⟩ := Option.map_eq_some_iff.1 hname
      cases heq
      rfl
    | «namespace» name => cases hname
  · cases h

theorem exportedVerbs_span {m : Module} {verb : Method × Span} (h : verb ∈ exportedVerbs m) :
    verb.2 ∈ m.spans := by
  obtain ⟨item, hitem, h⟩ := List.mem_flatMap.1 (firstOfEach_subset _ _ _ h)
  exact itemVerbs_span hitem h

theorem defaultExport?_span {m : Module} {span : Span} (h : defaultExport? m = some span) :
    span ∈ m.spans := by
  obtain ⟨item, hitem, h⟩ := List.exists_of_findSome?_eq_some h
  have hspan := Module.item_span_mem_spans hitem
  split at h
  · cases h
    exact hspan
  · cases h
    exact hspan
  · split at h
    · cases h
      exact hspan
    · cases h
  · cases h

theorem handler_hasPlace {p : Project} {f : SourceFile} (hf : f ∈ p.files) {span : Span}
    (h : span ∈ f.module.spans) (path : String) (method : Method) :
    p.HasPlace (handler f path method span).file (handler f path method span).line :=
  ⟨f, hf, rfl, span, h, rfl⟩

theorem appHandlers_value (f : SourceFile) (path : String) :
    (appHandlers f path).value =
      (exportedVerbs f.module).map fun verb => handler f path verb.1 verb.2 := by
  simp only [appHandlers]
  split <;> rfl

def pagesMethods (m : Module) : List Method :=
  if (handledVerbs m).isEmpty then [.get] else handledVerbs m

theorem pagesHandlers_value (f : SourceFile) (path : String) :
    (pagesHandlers f path).value =
      (defaultExport? f.module).toList.flatMap fun span =>
        (pagesMethods f.module).map (handler f path · span) := by
  unfold pagesHandlers
  cases defaultExport? f.module with
  | none => rfl
  | some span => exact (List.append_nil _).symm

section OneFile

variable {f : SourceFile} {x : Handler}

theorem exists_of_mem_fileHandlers
    (h : x ∈ (fileHandlers f).value.app ++ (fileHandlers f).value.pages) :
    ∃ path method span, (pagesRoute? f.relPath = some path ∨ appRoute? f.relPath = some path) ∧
      span ∈ f.module.spans ∧ x = handler f path method span := by
  unfold fileHandlers at h
  split at h
  · rename_i path hpath
    have hx : x ∈ (pagesHandlers f path).value := h
    rw [pagesHandlers_value] at hx
    obtain ⟨span, hspan, hx⟩ := List.mem_flatMap.1 hx
    obtain ⟨method, _, rfl⟩ := List.mem_map.1 hx
    exact ⟨path, method, span, .inl hpath, defaultExport?_span (Option.mem_toList.1 hspan), rfl⟩
  · split at h
    · rename_i path hpath
      rw [Logged.value_bind, Logged.value_pure, List.append_nil, appHandlers_value] at h
      obtain ⟨verb, hverb, rfl⟩ := List.mem_map.1 h
      exact ⟨path, verb.1, verb.2, .inr hpath, exportedVerbs_span hverb, rfl⟩
    · cases h

theorem fileHandlers_own (h : x ∈ (fileHandlers f).value.app ++ (fileHandlers f).value.pages) :
    x.file = f.path := by
  obtain ⟨path, method, span, _, _, rfl⟩ := exists_of_mem_fileHandlers h
  rfl

theorem fileHandlers_path (h : x ∈ (fileHandlers f).value.app ++ (fileHandlers f).value.pages) :
    pagesRoute? f.relPath = some x.path ∨ appRoute? f.relPath = some x.path := by
  obtain ⟨path, method, span, hpath, _, rfl⟩ := exists_of_mem_fileHandlers h
  exact hpath

end OneFile

theorem allHandlers_value (files : List SourceFile) :
    (allHandlers files).value =
      ⟨files.flatMap fun f => (fileHandlers f).value.app,
        files.flatMap fun f => (fileHandlers f).value.pages⟩ := by
  induction files with
  | nil => rfl
  | cons f rest ih => simp [allHandlers, ih]

theorem survey_app (p : Project) :
    (survey p).value.app = p.files.flatMap fun f => (fileHandlers f).value.app :=
  congrArg FileRoutes.app (allHandlers_value p.files)

theorem survey_pages (p : Project) :
    (survey p).value.pages = p.files.flatMap fun f => (fileHandlers f).value.pages :=
  congrArg FileRoutes.pages (allHandlers_value p.files)

theorem exists_file_of_mem_survey {p : Project} {x : Handler}
    (h : x ∈ (survey p).value.app ++ (survey p).value.pages) :
    ∃ f ∈ p.files, x ∈ (fileHandlers f).value.app ++ (fileHandlers f).value.pages := by
  rw [survey_app, survey_pages, List.mem_append, List.mem_flatMap, List.mem_flatMap] at h
  rcases h with ⟨f, hf, h⟩ | ⟨f, hf, h⟩
  · exact ⟨f, hf, List.mem_append_left _ h⟩
  · exact ⟨f, hf, List.mem_append_right _ h⟩

theorem survey_hasPlace (p : Project) :
    ∀ x ∈ (survey p).value.app ++ (survey p).value.pages, p.HasPlace x.file x.line := by
  intro x hx
  obtain ⟨f, hf, hx⟩ := exists_file_of_mem_survey hx
  obtain ⟨path, method, span, _, hspan, rfl⟩ := exists_of_mem_fileHandlers hx
  exact handler_hasPlace hf hspan path method

end FileRouter

namespace Controller

theorem describe_frame (h : Handler) (d : String × List Node) :
    ∃ headers query body, describe h d = { h with headers, query, body } := by
  unfold describe
  split
  · split <;> exact ⟨_, _, _, rfl⟩
  · split <;> exact ⟨_, _, _, rfl⟩
  · split <;> exact ⟨_, _, _, rfl⟩
  · exact ⟨_, _, _, rfl⟩

theorem foldl_describe_frame (h : Handler) (ds : List (String × List Node)) :
    ∃ headers query body, ds.foldl describe h = { h with headers, query, body } := by
  induction ds generalizing h with
  | nil => exact ⟨_, _, _, rfl⟩
  | cons d rest ih =>
    obtain ⟨headers, query, body, hrest⟩ := ih (describe h d)
    obtain ⟨_, _, _, hd⟩ := describe_frame h d
    exact ⟨headers, query, body, by rw [List.foldl_cons, hrest, hd]⟩

theorem memberHandlers_hasPlace {p : Project} {s : Scope} {n : Node} (hf : s.file ∈ p.files)
    (hn : n ∈ s.file.module.preorder) :
    ∀ x ∈ memberHandlers s n, p.HasPlace x.file x.line := by
  unfold memberHandlers
  split
  · rename_i key params decorators rest
    split
    · intro x hx
      obtain ⟨verb, _, rfl⟩ := List.mem_map.1 hx
      obtain ⟨_, _, _, hframe⟩ := foldl_describe_frame _ (parameterDecorators params)
      rw [hframe]
      have hkey := Module.mem_preorder_child hn (c := key) (by simp [Node.children])
      exact ⟨s.file, hf, rfl, SourceFile.hasLine_of_mem hkey⟩
    · simp
  · simp

theorem classHandlers_hasPlace {p : Project} {f : SourceFile} {n : Node} (hf : f ∈ p.files)
    (hn : n ∈ f.module.preorder) (globalPath : String) :
    ∀ x ∈ (classHandlers f globalPath n).value, p.HasPlace x.file x.line := by
  unfold classHandlers
  split
  · rename_i span name decorators members heritage
    split
    · simp
    · intro x hx
      obtain ⟨member, hmember, hx⟩ := List.mem_flatMap.1 hx
      refine memberHandlers_hasPlace hf (Module.mem_preorder_child hn ?_) x hx
      simp [Node.children, hmember]
  · simp

theorem survey_value (p : Project) :
    (survey p).value =
      p.files.flatMap fun f =>
        f.module.preorder.flatMap fun n => (classHandlers f ((globalPath? p).getD "") n).value := by
  simp only [survey]
  split <;> simp

theorem survey_hasPlace (p : Project) :
    ∀ x ∈ (survey p).value, p.HasPlace x.file x.line := by
  intro x hx
  rw [survey_value] at hx
  obtain ⟨f, hf, hx⟩ := List.mem_flatMap.1 hx
  obtain ⟨n, hn, hx⟩ := List.mem_flatMap.1 hx
  exact classHandlers_hasPlace hf hn _ x hx

end Controller

end RouteAtlas
