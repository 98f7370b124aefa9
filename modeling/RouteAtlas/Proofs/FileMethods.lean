import RouteAtlas.Proofs.DefaultExports
import RouteAtlas.Proofs.ExportedVerbs
import RouteAtlas.Proofs.RouteFiles

set_option autoImplicit false

namespace RouteAtlas.FileRouter

open Script

section OneModule

variable {m : Module} {v : Method}

theorem mem_verbs_iff_exists_item :
    v ∈ verbs m ↔ ∃ item ∈ m.items, ∃ span, (v, span) ∈ itemVerbs item := by
  rw [verbs, exportedVerbs, mem_firstOfEach_iff]
  simp only [List.not_mem_nil, not_false_iff, true_and, List.mem_map, List.mem_flatMap, Prod.exists]
  constructor
  · rintro ⟨_, span, ⟨item, hitem, hverb⟩, rfl⟩
    exact ⟨item, hitem, span, hverb⟩
  · rintro ⟨item, hitem, span, hverb⟩
    exact ⟨v, span, ⟨item, hitem, hverb⟩, rfl⟩

theorem handledVerbs_nodup (m : Module) : (handledVerbs m).Nodup := by
  have h := nodup_firstOfEach id [] (m.preorder.flatMap comparedVerbs)
  rwa [List.map_id] at h

theorem mem_handledVerbs_iff :
    v ∈ handledVerbs m ↔ ∃ n ∈ m.preorder, v ∈ comparedVerbs n := by
  rw [handledVerbs, ← List.map_id (firstOfEach _ _ _), mem_firstOfEach_iff, List.map_id]
  simp

theorem handledVerbs_eq_nil_iff :
    handledVerbs m = [] ↔ ∀ n ∈ m.preorder, comparedVerbs n = [] := by
  simp only [List.eq_nil_iff_forall_not_mem, mem_handledVerbs_iff, not_exists, not_and]
  exact ⟨fun h n hn v => h v n hn, fun h v n hn => h n hn v⟩

theorem pagesMethods_nodup (m : Module) : (pagesMethods m).Nodup := by
  unfold pagesMethods
  split
  · exact List.pairwise_singleton _ _
  · exact handledVerbs_nodup m

theorem mem_pagesMethods_iff :
    v ∈ pagesMethods m ↔
      (∃ n ∈ m.preorder, v ∈ comparedVerbs n) ∨
        (∀ n ∈ m.preorder, comparedVerbs n = []) ∧ v = .get := by
  rw [← mem_handledVerbs_iff, ← handledVerbs_eq_nil_iff]
  cases h : handledVerbs m <;> simp [pagesMethods, h]

end OneModule

theorem pagesRoute?_of_appRoute? {path route : String} (h : appRoute? path = some route) :
    pagesRoute? path = none := by
  cases hpages : pagesRoute? path with
  | none => rfl
  | some pagesRoute =>
    obtain ⟨f, hf, _⟩ := appRoute?_eq_some_iff.1 h
    obtain ⟨g, hg, _⟩ := pagesRoute?_eq_some_iff.1 hpages
    exact absurd (hf.symm.trans hg) (path_appDir_ne_path_pagesDir f g)

section OneFile

variable {f : SourceFile} {path : String}

theorem fileHandlers_of_app (h : appRoute? f.relPath = some path) :
    (fileHandlers f).value = { app := (appHandlers f path).value } := by
  simp only [fileHandlers, h, pagesRoute?_of_appRoute? h]
  rfl

theorem fileHandlers_of_pages (h : pagesRoute? f.relPath = some path) :
    (fileHandlers f).value = { pages := (pagesHandlers f path).value } := by
  simp only [fileHandlers, h]
  rfl

theorem fileHandlers_of_none (happ : appRoute? f.relPath = none)
    (hpages : pagesRoute? f.relPath = none) : (fileHandlers f).value = {} := by
  simp only [fileHandlers, happ, hpages]
  rfl

/-- A file has handlers in one list at most. -/
theorem fileHandlers_apart (f : SourceFile) :
    (fileHandlers f).value.app = [] ∨ (fileHandlers f).value.pages = [] := by
  cases happ : appRoute? f.relPath with
  | some path => exact .inr (congrArg FileRoutes.pages (fileHandlers_of_app happ))
  | none =>
    cases hpages : pagesRoute? f.relPath with
    | some path => exact .inl (congrArg FileRoutes.app (fileHandlers_of_pages hpages))
    | none => exact .inl (congrArg FileRoutes.app (fileHandlers_of_none happ hpages))

theorem fileHandlers_one_path {x y : Handler}
    (hx : x ∈ (fileHandlers f).value.app ++ (fileHandlers f).value.pages)
    (hy : y ∈ (fileHandlers f).value.app ++ (fileHandlers f).value.pages) : x.path = y.path := by
  rcases fileHandlers_path hx with hx | hx <;> rcases fileHandlers_path hy with hy | hy
  · exact Option.some.inj (hx.symm.trans hy)
  · exact absurd (hx.symm.trans (pagesRoute?_of_appRoute? hy)) (Option.some_ne_none _)
  · exact absurd (hy.symm.trans (pagesRoute?_of_appRoute? hx)) (Option.some_ne_none _)
  · exact Option.some.inj (hx.symm.trans hy)

/-- The methods that a file answers to, as they are listed. -/
def fileMethods (f : SourceFile) : List Method :=
  ((fileHandlers f).value.app ++ (fileHandlers f).value.pages).map (·.method)

theorem fileMethods_of_app (h : appRoute? f.relPath = some path) :
    fileMethods f = verbs f.module := by
  simp only [fileMethods, fileHandlers_of_app h, List.append_nil, appHandlers_value, List.map_map]
  rfl

theorem fileMethods_of_pages (h : pagesRoute? f.relPath = some path) :
    fileMethods f =
      if (defaultExport? f.module).isSome then pagesMethods f.module else [] := by
  simp only [fileMethods, fileHandlers_of_pages h, List.nil_append, pagesHandlers_value]
  cases defaultExport? f.module with
  | none => rfl
  | some span => simp [Function.comp_def, handler]

theorem fileMethods_of_none (happ : appRoute? f.relPath = none)
    (hpages : pagesRoute? f.relPath = none) : fileMethods f = [] := by
  rw [fileMethods, fileHandlers_of_none happ hpages]
  rfl

theorem fileMethods_nodup (f : SourceFile) : (fileMethods f).Nodup := by
  cases happ : appRoute? f.relPath with
  | some path =>
    rw [fileMethods_of_app happ]
    exact nodup_firstOfEach _ _ _
  | none =>
    cases hpages : pagesRoute? f.relPath with
    | some path =>
      rw [fileMethods_of_pages hpages]
      split
      · exact pagesMethods_nodup _
      · exact List.nodup_nil
    | none =>
      rw [fileMethods_of_none happ hpages]
      exact List.nodup_nil

/-- How a file comes to answer to a method. -/
inductive Answers (f : SourceFile) (v : Method) : Prop
  /-- Under `app`: an item exports the method. -/
  | exported {path : String} {item : Item} {span : Span} (hpath : appRoute? f.relPath = some path)
      (hitem : item ∈ f.module.items) (hv : (v, span) ∈ itemVerbs item)
  /-- Under `pages/api`: the module compares the method of the request with it. -/
  | compared {path : String} {n : Node} (hpath : pagesRoute? f.relPath = some path)
      (hdefault : (defaultExport? f.module).isSome) (hn : n ∈ f.module.preorder)
      (hv : v ∈ comparedVerbs n)
  /-- Under `pages/api`, where nothing is compared. -/
  | usual {path : String} (hpath : pagesRoute? f.relPath = some path)
      (hdefault : (defaultExport? f.module).isSome)
      (hnone : ∀ n ∈ f.module.preorder, comparedVerbs n = []) (hv : v = .get)

theorem mem_fileMethods_iff {v : Method} : v ∈ fileMethods f ↔ Answers f v := by
  constructor
  · intro hv
    cases happ : appRoute? f.relPath with
    | some path =>
      rw [fileMethods_of_app happ, mem_verbs_iff_exists_item] at hv
      obtain ⟨item, hitem, span, hv⟩ := hv
      exact .exported happ hitem hv
    | none =>
      cases hpages : pagesRoute? f.relPath with
      | some path =>
        rw [fileMethods_of_pages hpages] at hv
        split at hv
        · rename_i hdefault
          rcases mem_pagesMethods_iff.1 hv with ⟨n, hn, hv⟩ | ⟨hnone, hv⟩
          · exact .compared hpages hdefault hn hv
          · exact .usual hpages hdefault hnone hv
        · cases hv
      | none =>
        rw [fileMethods_of_none happ hpages] at hv
        cases hv
  · intro h
    cases h with
    | exported hpath hitem hv =>
      rw [fileMethods_of_app hpath]
      exact mem_verbs_iff_exists_item.2 ⟨_, hitem, _, hv⟩
    | compared hpath hdefault hn hv =>
      rw [fileMethods_of_pages hpath, if_pos hdefault]
      exact mem_pagesMethods_iff.2 (.inl ⟨_, hn, hv⟩)
    | usual hpath hdefault hnone hv =>
      rw [fileMethods_of_pages hpath, if_pos hdefault]
      exact mem_pagesMethods_iff.2 (.inr ⟨hnone, hv⟩)

end OneFile

/-- The handlers of each file stand together, in the order of the files. -/
def StandTogether (files : List SourceFile) (xs : List Handler) : Prop :=
  xs = files.flatMap fun f => xs.filter fun x => x.file = f.path

section AllFiles

variable {files : List SourceFile} {own : SourceFile → List Handler}

/-- What is gathered from files with different paths has, of each file, just what that file gave. -/
theorem filter_of_file (hfiles : files.Pairwise fun f g => f.path ≠ g.path)
    (hown : ∀ f ∈ files, ∀ x ∈ own f, x.file = f.path) {f : SourceFile} (hf : f ∈ files) :
    (files.flatMap own).filter (fun x => x.file = f.path) = own f := by
  obtain ⟨before, after, rfl⟩ := List.append_of_mem hf
  obtain ⟨_, hafter, hbefore⟩ := List.pairwise_append.1 hfiles
  have hself : (own f).filter (fun x => x.file = f.path) = own f :=
    List.filter_eq_self.2 fun x hx => decide_eq_true (hown f hf x hx)
  have hother {others : List SourceFile} (hsub : others ⊆ before ++ f :: after)
      (hne : ∀ g ∈ others, g.path ≠ f.path) :
      (others.flatMap own).filter (fun x => x.file = f.path) = [] := by
    refine List.filter_eq_nil_iff.2 fun x hx hfile => ?_
    obtain ⟨g, hg, hx⟩ := List.mem_flatMap.1 hx
    exact hne g hg ((hown g (hsub hg) x hx).symm.trans (of_decide_eq_true hfile))
  rw [List.flatMap_append, List.flatMap_cons, List.filter_append, List.filter_append, hself,
    hother (List.subset_append_left _ _) fun g hg => hbefore g hg f List.mem_cons_self,
    hother (fun g hg => List.mem_append_right _ (List.mem_cons_of_mem _ hg)) fun g hg =>
      ((List.pairwise_cons.1 hafter).1 g hg).symm,
    List.nil_append, List.append_nil]

theorem standTogether_flatMap (hfiles : files.Pairwise fun f g => f.path ≠ g.path)
    (hown : ∀ f ∈ files, ∀ x ∈ own f, x.file = f.path) :
    StandTogether files (files.flatMap own) :=
  List.flatMap_congr fun _ hf => (filter_of_file hfiles hown hf).symm

end AllFiles

theorem nodup_of_each_file {xs : List Handler}
    (h : ∀ x ∈ xs, ((xs.filter fun y => y.file = x.file).map (·.method)).Nodup) :
    (xs.map fun x => (x.file, x.method)).Nodup := by
  rw [List.Nodup, List.pairwise_map, List.pairwise_iff_forall_sublist]
  intro x y hsub heq
  obtain ⟨hfile, hmethod⟩ := Prod.mk.inj heq
  have hboth := (hsub.filter fun z => z.file = x.file).map (·.method)
  have hx : x ∈ xs := hsub.subset List.mem_cons_self
  have hnodup := (h x hx).sublist hboth
  simp [hfile, hmethod] at hnodup

section Survey

variable {p : Project} (hp : p.WellFormed) {f : SourceFile} (hf : f ∈ p.files)

include hp

theorem survey_app_standTogether : StandTogether p.files (survey p).value.app := by
  rw [survey_app]
  exact standTogether_flatMap hp.path_pairwise fun _ _ _ hx =>
    fileHandlers_own (List.mem_append_left _ hx)

theorem survey_pages_standTogether : StandTogether p.files (survey p).value.pages := by
  rw [survey_pages]
  exact standTogether_flatMap hp.path_pairwise fun _ _ _ hx =>
    fileHandlers_own (List.mem_append_right _ hx)

include hf

theorem survey_app_filter :
    (survey p).value.app.filter (fun x => x.file = f.path) = (fileHandlers f).value.app := by
  rw [survey_app]
  exact filter_of_file hp.path_pairwise
    (fun _ _ _ hx => fileHandlers_own (List.mem_append_left _ hx)) hf

theorem survey_pages_filter :
    (survey p).value.pages.filter (fun x => x.file = f.path) = (fileHandlers f).value.pages := by
  rw [survey_pages]
  exact filter_of_file hp.path_pairwise
    (fun _ _ _ hx => fileHandlers_own (List.mem_append_right _ hx)) hf

theorem survey_filter :
    ((survey p).value.app ++ (survey p).value.pages).filter (fun x => x.file = f.path) =
      (fileHandlers f).value.app ++ (fileHandlers f).value.pages := by
  rw [List.filter_append, survey_app_filter hp hf, survey_pages_filter hp hf]

theorem mem_survey_of_file_iff {x : Handler} :
    x ∈ (survey p).value.app ++ (survey p).value.pages ∧ x.file = f.path ↔
      x ∈ (fileHandlers f).value.app ++ (fileHandlers f).value.pages := by
  rw [← survey_filter hp hf, List.mem_filter, decide_eq_true_iff]

end Survey

/-- No file has a method twice, in the two lists together. A file is in one list at most, with one
path and with its handlers together, and the files keep their order. The methods of a file are those
that it answers to, by whatever items and comparisons and however often. -/
theorem methods_once_per_file {p : Project} (hp : p.Run) :
    (((survey p).value.app ++ (survey p).value.pages).map fun x => (x.file, x.method)).Nodup ∧
    (∀ f ∈ p.files, (∀ x ∈ (survey p).value.app, x.file ≠ f.path) ∨
      ∀ x ∈ (survey p).value.pages, x.file ≠ f.path) ∧
    (∀ x ∈ (survey p).value.app ++ (survey p).value.pages,
      ∀ y ∈ (survey p).value.app ++ (survey p).value.pages, x.file = y.file → x.path = y.path) ∧
    (StandTogether p.files (survey p).value.app ∧ StandTogether p.files (survey p).value.pages) ∧
    ∀ f ∈ p.files, ∀ v : Method,
      (∃ x ∈ (survey p).value.app ++ (survey p).value.pages, x.file = f.path ∧ x.method = v) ↔
        Answers f v := by
  have hfiles := hp.wellFormed
  refine ⟨nodup_of_each_file fun x hx => ?_, fun f hf => ?_, fun x hx y hy hfile => ?_,
    ⟨survey_app_standTogether hfiles, survey_pages_standTogether hfiles⟩, fun f hf v => ?_⟩
  · obtain ⟨f, hf, hx⟩ := exists_file_of_mem_survey hx
    simp only [fileHandlers_own hx]
    rw [survey_filter hfiles hf]
    exact fileMethods_nodup f
  · rcases fileHandlers_apart f with happ | hpages
    · rw [← survey_app_filter hfiles hf, List.filter_eq_nil_iff] at happ
      exact .inl fun x hx hfile => happ x hx (decide_eq_true hfile)
    · rw [← survey_pages_filter hfiles hf, List.filter_eq_nil_iff] at hpages
      exact .inr fun x hx hfile => hpages x hx (decide_eq_true hfile)
  · obtain ⟨f, hf, hxf⟩ := exists_file_of_mem_survey hx
    have hyf := (mem_survey_of_file_iff hfiles hf).1 ⟨hy, hfile.symm.trans (fileHandlers_own hxf)⟩
    exact fileHandlers_one_path hxf hyf
  · rw [← mem_fileMethods_iff, fileMethods, List.mem_map]
    constructor
    · rintro ⟨x, hx, hfile, hmethod⟩
      exact ⟨x, (mem_survey_of_file_iff hfiles hf).1 ⟨hx, hfile⟩, hmethod⟩
    · rintro ⟨x, hx, hmethod⟩
      obtain ⟨hx, hfile⟩ := (mem_survey_of_file_iff hfiles hf).2 hx
      exact ⟨x, hx, hfile, hmethod⟩

def repeatingDisk : Disk :=
  let route := "export const GET = 1, POST = 2\nexport \x7b h as GET \x7d"
  let api := "export default 1\nswitch (method) \x7b case 'PUT': case 'GET': case 'PUT': \x7d"
  ⟨[], .dir [("p", .dir [
    ("app", .dir [("x", .dir [("route.ts", .file route.toUTF8)])]),
    ("pages", .dir [("api", .dir [("y.ts", .file api.toUTF8)])])])]⟩

theorem repeatingDisk_named : repeatingDisk.Named := by
  refine ⟨fun _ h => absurd h List.not_mem_nil, ?_⟩
  simp [repeatingDisk, Entry.named_dir_iff, Entry.Named.file]
  decide

def repeatingProject : Project :=
  (Project.loadAll repeatingDisk
    { root := ["p"], imports := (ImportMap.ofProject repeatingDisk (Location.text ["p"])).value }
    [["p", "app", "x", "route.ts"], ["p", "pages", "api", "y.ts"]]).value

theorem repeatingProject_run : repeatingProject.Run := by
  have hsources : Project.sources repeatingDisk ["p"] =
      [["p", "app", "x", "route.ts"], ["p", "pages", "api", "y.ts"]] :=
    (List.mergeSort_of_pairwise (by decide +kernel)).trans (by decide +kernel)
  have hload : Project.load repeatingDisk "/p" = .ok (Project.loadFrom repeatingDisk ["p"]) :=
    if_pos rfl
  have hrun := Project.Run.load repeatingDisk_named hload
  rwa [Project.loadFrom_value, hsources] at hrun

theorem repeated_methods_listed_once :
    repeatingProject.Run ∧
      (survey repeatingProject).value.app.map (fun x => (x.file, x.method)) =
        [("/p/app/x/route.ts", .get), ("/p/app/x/route.ts", .post)] ∧
      (survey repeatingProject).value.pages.map (fun x => (x.file, x.method)) =
        [("/p/pages/api/y.ts", .put), ("/p/pages/api/y.ts", .get)] ∧
      ∃ f ∈ repeatingProject.files, Answers f .put ∧
        ∀ x ∈ (survey repeatingProject).value.app, x.file ≠ f.path := by
  have hlists : ((survey repeatingProject).value.app.map (fun x => (x.file, x.method)),
      (survey repeatingProject).value.pages.map (fun x => (x.file, x.method))) =
      ([("/p/app/x/route.ts", .get), ("/p/app/x/route.ts", .post)],
        [("/p/pages/api/y.ts", .put), ("/p/pages/api/y.ts", .get)]) := by
    decide +kernel
  obtain ⟨happ, hpages⟩ := Prod.mk.inj hlists
  obtain ⟨_, hapart, _, _, hanswers⟩ := methods_once_per_file repeatingProject_run
  have hmem : ("/p/pages/api/y.ts", Method.put) ∈
      (survey repeatingProject).value.pages.map fun x => (x.file, x.method) := by
    rw [hpages]
    exact List.mem_cons_self
  obtain ⟨x, hx, hentry⟩ := List.mem_map.1 hmem
  obtain ⟨f, hf, hown⟩ := exists_file_of_mem_survey (List.mem_append_right _ hx)
  have hfile := fileHandlers_own hown
  have hput := (hanswers f hf .put).1
    ⟨x, List.mem_append_right _ hx, hfile, congrArg Prod.snd hentry⟩
  exact ⟨repeatingProject_run, happ, hpages, f, hf, hput,
    (hapart f hf).resolve_right fun hnone => hnone x hx hfile⟩

end RouteAtlas.FileRouter
