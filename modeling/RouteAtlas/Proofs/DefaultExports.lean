import RouteAtlas.Proofs.HandlerPlaces
import RouteAtlas.Proofs.ProjectRuns

set_option autoImplicit false

namespace RouteAtlas

open Script

namespace ModuleIndex

def exportedBy : IndexEffect → List String
  | .declare _ _ _ _ exported => exported
  | .star _ => []
  | .localExport _ exported => [exported]

theorem exports_enter {file : Nat} {decls : List Declaration} {index : ModuleIndex}
    {effect : IndexEffect} {entry : String × Nat}
    (h : entry ∈ (enter file (decls, index) effect).2.exports) :
    entry ∈ index.exports ∨ entry.1 ∈ exportedBy effect := by
  cases effect with
  | declare name span kind bound exported => exact (mem_bind h).imp_right And.left
  | star specifier => exact .inl h
  | localExport name exported => exact .inl h

theorem exports_enterLocal {index : ModuleIndex} {effect : IndexEffect} {entry : String × Nat}
    (h : entry ∈ (enterLocal index effect).exports) :
    entry ∈ index.exports ∨ entry.1 ∈ exportedBy effect := by
  cases effect with
  | declare name span kind bound exported => exact .inl h
  | star specifier => exact .inl h
  | localExport name exported =>
    simp only [enterLocal] at h
    split at h
    · rcases List.mem_cons.1 h with rfl | h
      · exact .inr List.mem_cons_self
      · exact .inl h
    · exact .inl h

theorem exports_foldl_enter {file : Nat} (effects : List IndexEffect) {decls : List Declaration}
    {index : ModuleIndex} {entry : String × Nat}
    (h : entry ∈ (effects.foldl (enter file) (decls, index)).2.exports) :
    entry ∈ index.exports ∨ ∃ effect ∈ effects, entry.1 ∈ exportedBy effect := by
  induction effects generalizing decls index with
  | nil => exact .inl h
  | cons effect rest ih =>
    rcases ih h with h | ⟨later, hlater, h⟩
    · exact (exports_enter h).imp_right fun h => ⟨effect, List.mem_cons_self, h⟩
    · exact .inr ⟨later, List.mem_cons_of_mem _ hlater, h⟩

theorem exports_foldl_enterLocal (effects : List IndexEffect) {index : ModuleIndex}
    {entry : String × Nat} (h : entry ∈ (effects.foldl enterLocal index).exports) :
    entry ∈ index.exports ∨ ∃ effect ∈ effects, entry.1 ∈ exportedBy effect := by
  induction effects generalizing index with
  | nil => exact .inl h
  | cons effect rest ih =>
    rcases ih h with h | ⟨later, hlater, h⟩
    · exact (exports_enterLocal h).imp_right fun h => ⟨effect, List.mem_cons_self, h⟩
    · exact .inr ⟨later, List.mem_cons_of_mem _ hlater, h⟩

/-- Every name under which a module exports something is exported by one of its items. -/
theorem exists_item_of_export {file id : Nat} {decls : List Declaration} {items : List Item}
    {name : String} (h : (ofItems file decls items).2.exports.lookup name = some id) :
    ∃ item ∈ items, ∃ effect ∈ effects item, name ∈ exportedBy effect := by
  have hentry : (name, id) ∈ (ofItems file decls items).2.exports := by
    obtain ⟨before, after, heq, _⟩ := List.lookup_eq_some_iff.1 h
    simp [heq]
  obtain ⟨effect, heffect, hname⟩ :
      ∃ effect ∈ items.flatMap effects, name ∈ exportedBy effect := by
    rcases exports_foldl_enterLocal _ hentry with hentry | h
    · rcases exports_foldl_enter _ hentry with hentry | h
      · cases hentry
      · exact h
    · exact h
  obtain ⟨item, hitem, heffect⟩ := List.mem_flatMap.1 heffect
  exact ⟨item, hitem, effect, heffect, hname⟩

end ModuleIndex

namespace FileRouter

/-- `export default`, or a list in which the name `default` stands behind `as`. -/
inductive NamesDefault : Item → Prop
  | decl (span : Span) (decl : DefaultDecl) : NamesDefault (.exportDefaultDecl span decl)
  | expr (span : Span) (expr : Node) : NamesDefault (.exportDefaultExpr span expr)
  | renamed {span specifierSpan nameSpan : Span} {typeOnly marked : Bool} {orig : Node}
      {specifiers : List ExportSpecifier} {source : Option String} {attributes : List Node}
      (h : .named specifierSpan marked orig (some (.ident nameSpan "default")) ∈ specifiers) :
      NamesDefault (.exportNamed span typeOnly specifiers source attributes)

/-- The other ways to export something as the default. -/
inductive HidesDefault : Item → Prop
  | assigned (span : Span) (expr : Node) : HidesDefault (.exportAssign span expr)
  /-- `default` without another name, as in a list of what another module exports. -/
  | kept {span specifierSpan : Span} {marked : Bool} {orig : Node}
      {specifiers : List ExportSpecifier} {source : Option String} {attributes : List Node}
      (h : .named specifierSpan marked orig none ∈ specifiers)
      (hname : orig.keyName? = some "default") :
      HidesDefault (.exportNamed span false specifiers source attributes)
  /-- The name behind `as` is a string. -/
  | quoted {span specifierSpan : Span} {marked : Bool} {orig outer : Node}
      {specifiers : List ExportSpecifier} {source : Option String} {attributes : List Node}
      (h : .named specifierSpan marked orig (some outer) ∈ specifiers)
      (hname : outer.keyName? = some "default")
      (hquoted : ∀ s, outer ≠ .ident s "default") :
      HidesDefault (.exportNamed span false specifiers source attributes)
  | whole {span : Span} {name : Node} {specifiers : List ExportSpecifier} {source : String}
      {attributes : List Node} (h : .namespace name ∈ specifiers)
      (hname : name.keyName? = some "default") :
      HidesDefault (.exportNamed span false specifiers (some source) attributes)
  /-- A declaration with this name, which is a reserved word in every script. -/
  | declared {span : Span} {node : Node}
      (h : "default" ∈ (ModuleIndex.declared node).map fun entry => entry.1) :
      HidesDefault (.exportDecl span node)

theorem specifierName_eq_default {n : Node} :
    ModuleIndex.specifierName n = "default" ↔ n.keyName? = some "default" := by
  unfold ModuleIndex.specifierName
  cases n.keyName? with
  | none => simp
  | some name => simp

theorem default_of_exportEffect {span : Span} {specifiers : List ExportSpecifier}
    {source : Option String} {attributes : List Node} {s : ExportSpecifier} {effect : IndexEffect}
    (hs : s ∈ specifiers) (heffect : ModuleIndex.exportEffect? span source s = some effect)
    (hname : "default" ∈ ModuleIndex.exportedBy effect) :
    NamesDefault (.exportNamed span false specifiers source attributes) ∨
      HidesDefault (.exportNamed span false specifiers source attributes) := by
  cases s with
  | named specifierSpan marked orig exported =>
    have houter : (exported.map ModuleIndex.specifierName).getD
        (ModuleIndex.specifierName orig) = "default" := by
      cases source <;>
        simp only [ModuleIndex.exportEffect?, Option.some.injEq] at heffect <;>
        subst heffect <;>
        exact (List.mem_singleton.1 hname).symm
    cases exported with
    | none => exact .inr (.kept hs (specifierName_eq_default.1 houter))
    | some outer =>
      have hkey : outer.keyName? = some "default" := specifierName_eq_default.1 houter
      by_cases hident : ∃ nameSpan, outer = .ident nameSpan "default"
      · obtain ⟨nameSpan, rfl⟩ := hident
        exact .inl (.renamed hs)
      · exact .inr (.quoted hs hkey fun nameSpan heq => hident ⟨nameSpan, heq⟩)
  | «namespace» name =>
    obtain ⟨specifier, rfl, rfl⟩ := Option.map_eq_some_iff.1 heffect
    exact .inr (.whole hs (specifierName_eq_default.1 (List.mem_singleton.1 hname).symm))

theorem default_of_effect {item : Item} {effect : IndexEffect}
    (heffect : effect ∈ ModuleIndex.effects item)
    (hname : "default" ∈ ModuleIndex.exportedBy effect) : NamesDefault item ∨ HidesDefault item := by
  unfold ModuleIndex.effects at heffect
  split at heffect
  case h_1 node =>
    obtain ⟨⟨name, span, kind⟩, _, rfl⟩ := List.mem_map.1 heffect
    cases hname
  case h_2 span node =>
    obtain ⟨⟨name, span, kind⟩, hdecl, rfl⟩ := List.mem_map.1 heffect
    cases List.mem_singleton.1 hname
    exact .inr (.declared (List.mem_map_of_mem hdecl))
  case h_3 =>
    obtain ⟨s, _, heffect⟩ := List.mem_filterMap.1 heffect
    unfold ModuleIndex.importEffect? at heffect
    split at heffect
    · cases heffect
    · cases heffect
      cases hname
  case h_4 =>
    obtain ⟨s, hs, heffect⟩ := List.mem_filterMap.1 heffect
    exact default_of_exportEffect hs heffect hname
  case h_5 =>
    cases List.mem_singleton.1 heffect
    cases hname
  case h_6 => exact .inl (.expr _ _)
  case h_7 => exact .inr (.assigned _ _)
  case h_8 => exact .inl (.decl _ _)
  case h_9 => exact .inl (.decl _ _)
  case h_10 => cases heffect

theorem defaultExport?_isSome_iff {m : Module} :
    (defaultExport? m).isSome ↔ ∃ item ∈ m.items, NamesDefault item := by
  rw [defaultExport?, List.findSome?_isSome_iff]
  refine exists_congr fun item => and_congr_right fun _ => ?_
  constructor
  · intro h
    split at h
    · exact .decl _ _
    · exact .expr _ _
    · rename_i specifiers _ _
      split at h
      · rename_i hany
        obtain ⟨s, hs, hdefault⟩ := List.any_eq_true.1 hany
        split at hdefault
        · exact .renamed hs
        · cases hdefault
      · cases h
    · cases h
  · intro h
    cases h with
    | decl span decl => rfl
    | expr span expr => rfl
    | renamed hs =>
      dsimp only
      rw [if_pos (List.any_eq_true.2 ⟨_, hs, rfl⟩)]
      rfl

theorem pagesMethods_ne_nil (m : Module) : pagesMethods m ≠ [] := by
  unfold pagesMethods
  cases handledVerbs m <;> simp

theorem pagesHandlers_eq_nil_iff {f : SourceFile} {path : String} :
    (pagesHandlers f path).value = [] ↔ defaultExport? f.module = none := by
  rw [pagesHandlers_value]
  cases defaultExport? f.module <;> simp [pagesMethods_ne_nil]

theorem fileHandlers_pages (f : SourceFile) :
    (fileHandlers f).value.pages =
      ((pagesRoute? f.relPath).map fun path => (pagesHandlers f path).value).getD [] := by
  unfold fileHandlers
  cases pagesRoute? f.relPath with
  | some path => rfl
  | none => cases appRoute? f.relPath <;> rfl

theorem mem_survey_pages_iff {p : Project} (hp : p.WellFormed) {f : SourceFile} (hf : f ∈ p.files)
    {path : String} (hpath : pagesRoute? f.relPath = some path) {x : Handler} :
    x ∈ (survey p).value.pages ∧ x.file = f.path ↔ x ∈ (pagesHandlers f path).value := by
  have hpages : (fileHandlers f).value.pages = (pagesHandlers f path).value := by
    rw [fileHandlers_pages, hpath]
    rfl
  rw [survey_pages, List.mem_flatMap, ← hpages]
  constructor
  · rintro ⟨⟨g, hg, hx⟩, hfile⟩
    rw [fileHandlers_own (List.mem_append_right _ hx)] at hfile
    -- the route tells its file, and no two files have one path
    rwa [← hp.path_inj hg hf hfile]
  · intro hx
    exact ⟨⟨f, hf, hx⟩, fileHandlers_own (List.mem_append_right _ hx)⟩

/-- Where the index of a file knows a default export, an item exports it in one of two kinds of
ways. A file under `pages/api` has routes exactly when some item uses the ways that name the
default; the others are not noticed. -/
theorem default_routed_iff_named {p : Project} (hp : p.Run) {f : SourceFile} (hf : f ∈ p.files)
    (hdefault : (f.export? "default").isSome) :
    ((∃ item ∈ f.module.items, NamesDefault item) ∨ ∃ item ∈ f.module.items, HidesDefault item) ∧
    ((defaultExport? f.module).isSome ↔ ∃ item ∈ f.module.items, NamesDefault item) ∧
    ∀ path, pagesRoute? f.relPath = some path →
      ((∃ x ∈ (survey p).value.pages, x.file = f.path) ↔
        ∃ item ∈ f.module.items, NamesDefault item) := by
  refine ⟨?_, defaultExport?_isSome_iff, fun path hpath => ?_⟩
  · obtain ⟨id, hid⟩ := Option.isSome_iff_exists.1 hdefault
    obtain ⟨decls, hindex⟩ := hp.loaded.index_eq f hf
    rw [SourceFile.export?, hindex] at hid
    obtain ⟨item, hitem, effect, heffect, hname⟩ := ModuleIndex.exists_item_of_export hid
    exact (default_of_effect heffect hname).imp (fun h => ⟨item, hitem, h⟩) fun h => ⟨item, hitem, h⟩
  · have hroutes : (∃ x ∈ (survey p).value.pages, x.file = f.path) ↔
        (pagesHandlers f path).value ≠ [] := by
      simp only [mem_survey_pages_iff hp.wellFormed hf hpath]
      exact ⟨fun ⟨x, hx⟩ => List.ne_nil_of_mem hx, List.exists_mem_of_ne_nil _⟩
    rw [hroutes, ne_eq, pagesHandlers_eq_nil_iff, ← defaultExport?_isSome_iff,
      Option.isSome_iff_ne_none]

def pagesDisk (text : String) : Disk :=
  ⟨[], .dir [("p", .dir [("pages", .dir [("api", .dir [("x.ts", .file text.toUTF8)])])])]⟩

def pagesProject (text : String) : Project := (Project.loadFrom (pagesDisk text) ["p"]).value

theorem pagesProject_run (text : String) : (pagesProject text).Run := by
  have hnamed : (pagesDisk text).Named := by
    refine ⟨fun _ h => absurd h List.not_mem_nil, ?_⟩
    simp [pagesDisk, Entry.named_dir_iff, Entry.Named.file]
    decide
  have hload : Project.load (pagesDisk text) "/p" = .ok (Project.loadFrom (pagesDisk text) ["p"]) :=
    if_pos rfl
  exact .load hnamed hload

def pagesView (p : Project) : List (Bool × Bool × Option String) :=
  p.files.map fun f =>
    ((f.export? "default").isSome, (defaultExport? f.module).isSome, pagesRoute? f.relPath)

theorem renamed_default_routed :
    ∃ p : Project, p.Run ∧ ∃ f ∈ p.files, (f.export? "default").isSome ∧
      pagesRoute? f.relPath = some "/api/x" ∧
      (∃ item ∈ f.module.items, NamesDefault item) ∧
      ∃ x ∈ (survey p).value.pages, x.file = f.path := by
  let text := "export \x7b handler as default \x7d from './y'"
  have hview : pagesView (pagesProject text) = [(true, true, some "/api/x")] := by
    decide +kernel
  obtain ⟨f, hf, hentry⟩ := List.mem_map.1 (hview ▸ List.mem_singleton_self _)
  simp only [Prod.mk.injEq] at hentry
  obtain ⟨hindex, hseen, hpath⟩ := hentry
  obtain ⟨_, hnamed, hroutes⟩ := default_routed_iff_named (pagesProject_run text) hf hindex
  have hitem := hnamed.1 hseen
  exact ⟨_, pagesProject_run text, f, hf, hindex, hpath, hitem, (hroutes _ hpath).2 hitem⟩

def Unrouted (text : String) : Prop :=
  ∃ f ∈ (pagesProject text).files, (f.export? "default").isSome ∧
    pagesRoute? f.relPath = some "/api/x" ∧ defaultExport? f.module = none ∧
    (survey (pagesProject text)).value.pages.length = 0

theorem unrouted_of_pagesView {text : String}
    (hview : pagesView (pagesProject text) = [(true, false, some "/api/x")])
    (hroutes : (survey (pagesProject text)).value.pages.length = 0) : Unrouted text := by
  obtain ⟨f, hf, hentry⟩ := List.mem_map.1 (hview ▸ List.mem_singleton_self _)
  simp only [Prod.mk.injEq, Option.isSome_eq_false_iff, Option.isNone_iff_eq_none] at hentry
  obtain ⟨hindex, hhidden, hpath⟩ := hentry
  exact ⟨f, hf, hindex, hpath, hhidden, hroutes⟩

/-- A default that is kept from another module, one that is assigned, and one with a string as its
name. -/
theorem hidden_defaults_not_routed :
    Unrouted "export \x7b default \x7d from './y'" ∧
      Unrouted "const h = () => 1\nexport = h" ∧
      Unrouted "const h = () => 1\nexport \x7b h as 'default' \x7d" :=
  ⟨unrouted_of_pagesView (by decide +kernel) (by decide +kernel),
    unrouted_of_pagesView (by decide +kernel) (by decide +kernel),
    unrouted_of_pagesView (by decide +kernel) (by decide +kernel)⟩

end FileRouter

end RouteAtlas
