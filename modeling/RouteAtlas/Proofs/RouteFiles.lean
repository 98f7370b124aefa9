import RouteAtlas.FileRouter.Path

set_option autoImplicit false

/-!
# Files whose names spell routes

Which paths name a route file, as a grammar: an optional `src`, a route directory, any directories,
and a file name with an ending behind its last dot. Under `app` and under `pages/api` the paths that
have a route are those of the grammar whose parts are allowed there, and the route is read off the
parts. No path has a route in both ways, and a leading `src` makes no difference.
-/
namespace RouteAtlas

namespace FileRouter

/-- The parts of a path below a route directory. A file name is cut at its last dot. -/
structure RouteFile where
  inSrc : Bool
  dirs : List (List Char)
  stem : List Char
  ending : List Char
  dirs_noSlash : ∀ d ∈ dirs, '/' ∉ d
  stem_noSlash : '/' ∉ stem
  ending_noSlash : '/' ∉ ending
  ending_noDot : '.' ∉ ending

namespace RouteFile

variable (f : RouteFile) (root : List (List Char))

def folders : List (List Char) := (if f.inSrc then ["src".toList] else []) ++ root ++ f.dirs

def fileName : List Char := f.stem ++ '.' :: f.ending

def path : String := String.ofList ((f.folders root).flatMap (fun d => d ++ ['/']) ++ f.fileName)

theorem components_path (hroot : ∀ d ∈ root, '/' ∉ d) :
    RoutePath.components (f.path root) = f.folders root ++ [f.fileName] := by
  rw [RoutePath.components, path, String.toList_ofList, ← Text.join_concat]
  refine Text.split_join (by simp) fun d hd => ?_
  simp only [folders, fileName, List.mem_append, List.mem_singleton] at hd
  rcases hd with ((hd | hd) | hd) | rfl
  · split at hd
    · rw [List.mem_singleton.1 hd]
      decide
    · cases hd
  · exact hroot d hd
  · exact f.dirs_noSlash d hd
  · have := f.stem_noSlash
    have := f.ending_noSlash
    simp_all

end RouteFile

def appDir : List (List Char) := ["app".toList]

def pagesDir : List (List Char) := ["pages".toList, "api".toList]

section Below

variable {dir components rest : List (List Char)}

theorem below?_src (dir : List (List Char)) (components : List (List Char)) :
    below? dir ("src".toList :: components) =
      if dir.isPrefixOf components then some (components.drop dir.length) else none := by
  simp [below?]

theorem below?_of_ne_src (h : components.head? ≠ some "src".toList) :
    below? dir components =
      if dir.isPrefixOf components then some (components.drop dir.length) else none := by
  cases components with
  | nil => rfl
  | cons first more =>
    have hfirst : first ≠ "src".toList := by simpa using h
    simp only [below?, if_neg hfirst]

theorem drop_of_prefix_iff :
    (if dir.isPrefixOf components then some (components.drop dir.length) else none) = some rest ↔
      components = dir ++ rest := by
  split
  · rename_i hprefix
    obtain ⟨more, rfl⟩ := List.isPrefixOf_iff_prefix.1 hprefix
    simp [eq_comm]
  · rename_i hprefix
    refine iff_of_false (by simp) ?_
    rintro rfl
    exact hprefix (List.isPrefixOf_iff_prefix.2 (List.prefix_append _ _))

theorem below?_eq_some_iff (hne : dir ≠ []) (hdir : dir.head? ≠ some "src".toList) :
    below? dir components = some rest ↔
      ∃ inSrc : Bool, components = (if inSrc then ["src".toList] else []) ++ dir ++ rest := by
  by_cases hsrc : components.head? = some "src".toList
  · obtain ⟨more, rfl⟩ := List.head?_eq_some_iff.1 hsrc
    rw [below?_src, drop_of_prefix_iff]
    constructor
    · rintro rfl
      exact ⟨true, rfl⟩
    · rintro ⟨inSrc, heq⟩
      cases inSrc with
      | true => exact (List.cons.inj heq).2
      | false =>
        obtain ⟨first, others, rfl⟩ := List.exists_cons_of_ne_nil hne
        cases heq
        exact absurd rfl hdir
  · rw [below?_of_ne_src hsrc, drop_of_prefix_iff]
    constructor
    · rintro rfl
      exact ⟨false, rfl⟩
    · rintro ⟨inSrc, rfl⟩
      cases inSrc with
      | true => exact absurd rfl hsrc
      | false => rfl

end Below

theorem stem?_eq_some_iff {fileName stem : List Char} :
    stem? fileName = some stem ↔ ∃ ending, fileName = stem ++ '.' :: ending ∧ '.' ∉ ending := by
  simp only [stem?, Option.map_eq_some_iff, Prod.exists, Text.splitLast?_eq_some_iff]
  constructor
  · rintro ⟨_, ending, h, rfl⟩
    exact ⟨ending, h⟩
  · rintro ⟨ending, h⟩
    exact ⟨stem, ending, h, rfl⟩

theorem dirsAndStem?_eq_some_iff {root : List (List Char)} (hne : root ≠ [])
    (hsrc : root.head? ≠ some "src".toList) (hroot : ∀ d ∈ root, '/' ∉ d) {path : String}
    {dirs : List (List Char)} {stem : List Char} :
    dirsAndStem? root path = some (dirs, stem) ↔
      ∃ f : RouteFile, path = f.path root ∧ f.dirs = dirs ∧ f.stem = stem := by
  simp only [dirsAndStem?, Option.bind_eq_bind, Option.bind_eq_some_iff, Option.pure_def,
    Option.some.injEq, Prod.mk.injEq, below?_eq_some_iff hne hsrc, stem?_eq_some_iff]
  constructor
  · rintro ⟨rest, ⟨inSrc, hcomponents⟩, fileName, hlast, _, ⟨ending, rfl, hdot⟩, rfl, rfl⟩
    rename_i stem
    obtain ⟨dirs, rfl⟩ := List.getLast?_eq_some_iff.1 hlast
    have hslash : ∀ c ∈ RoutePath.components path, '/' ∉ c := fun c hc =>
      Text.not_mem_of_mem_split hc
    rw [hcomponents] at hslash
    have hname : '/' ∉ stem ++ '.' :: ending := hslash _ (by simp)
    refine ⟨⟨inSrc, dirs, stem, ending, fun d hd => hslash d (by simp [hd]), ?_, ?_, hdot⟩,
      ?_, by simp, rfl⟩
    · exact fun hmem => hname (by simp [hmem])
    · exact fun hmem => hname (by simp [hmem])
    · -- the path is what its components are joined to
      have hjoin := Text.join_split '/' path.toList
      change Text.join '/' (RoutePath.components path) = _ at hjoin
      rw [hcomponents, ← List.append_assoc, Text.join_concat] at hjoin
      rw [← String.ofList_toList (s := path), ← hjoin]
      rfl
  · rintro ⟨f, rfl, rfl, rfl⟩
    refine ⟨f.dirs ++ [f.fileName], ⟨f.inSrc, ?_⟩, f.fileName, by simp, f.stem,
      ⟨f.ending, rfl, f.ending_noDot⟩, by simp, rfl⟩
    rw [f.components_path root hroot, RouteFile.folders]
    simp

def Grouped (dir : List Char) : Prop := ['('] <+: dir ∧ [')'] <:+ dir

def Slot (dir : List Char) : Prop := ['@'] <+: dir

def Private (dir : List Char) : Prop := ['_'] <+: dir

/-- Directories under `app` that have no part in the route. -/
def Unnamed (dir : List Char) : Prop := Grouped dir ∨ Slot dir

instance (dir : List Char) : Decidable (Unnamed dir) :=
  inferInstanceAs (Decidable ((['('] <+: dir ∧ [')'] <:+ dir) ∨ ['@'] <+: dir))

theorem isGroup_iff {dir : List Char} : isGroup dir = true ↔ Unnamed dir := by
  simp [isGroup, Unnamed, Grouped, Slot, List.singleton_prefix_iff_head?_eq_some,
    List.singleton_suffix_iff_getLast?_eq_some]

theorem isPrivate_iff {dir : List Char} : isPrivate dir = true ↔ Private dir := by
  simp [isPrivate, Private, List.singleton_prefix_iff_head?_eq_some]

def Reserved (part : List Char) : Prop := String.ofList part ∈ Segment.reserved

theorem isReservedChars_iff {part : List Char} : isReservedChars part = true ↔ Reserved part := by
  simp [isReservedChars, Segment.isReserved, Reserved]

def spelled (parts : List (List Char)) : List String :=
  parts.map fun d => String.ofList (Segment.normalizeChars d)

namespace RouteFile

variable (f : RouteFile)

/-- A route file under `app`: it is called `route`, and no directory with a part in the route is
private. -/
structure InApp : Prop where
  stem_eq : f.stem = "route".toList
  named : ∀ d ∈ f.dirs, ¬Unnamed d → ¬Private d

def appRoute : String := RoutePath.join (spelled (f.dirs.filter fun d => ¬Unnamed d))

/-- A route file under `pages/api`: no part of the path is reserved. -/
structure InPages : Prop where
  stem_free : ¬Reserved f.stem
  dirs_free : ∀ d ∈ f.dirs, ¬Reserved d

def pagesRoute : String :=
  RoutePath.join
    ("api" :: spelled (f.dirs ++ if f.stem = "index".toList then [] else [f.stem]))

end RouteFile

theorem dirsAndStem?_appDir {path : String} {dirs : List (List Char)} {stem : List Char} :
    dirsAndStem? appDir path = some (dirs, stem) ↔
      ∃ f : RouteFile, path = f.path appDir ∧ f.dirs = dirs ∧ f.stem = stem :=
  dirsAndStem?_eq_some_iff (by decide) (by decide) (by decide)

theorem dirsAndStem?_pagesDir {path : String} {dirs : List (List Char)} {stem : List Char} :
    dirsAndStem? pagesDir path = some (dirs, stem) ↔
      ∃ f : RouteFile, path = f.path pagesDir ∧ f.dirs = dirs ∧ f.stem = stem :=
  dirsAndStem?_eq_some_iff (by decide) (by decide) (by decide)

theorem appRoute?_eq_some_iff {path route : String} :
    appRoute? path = some route ↔
      ∃ f : RouteFile, path = f.path appDir ∧ f.InApp ∧ route = f.appRoute := by
  have hfilter (dirs : List (List Char)) :
      dirs.filter (fun d => !isGroup d) = dirs.filter fun d => ¬Unnamed d := by
    refine List.filter_congr fun d _ => ?_
    rw [Bool.eq_iff_iff]
    simp [← isGroup_iff]
  have hprivate (dirs : List (List Char)) :
      ¬(dirs.filter fun d => ¬Unnamed d).any isPrivate = true ↔
        ∀ d ∈ dirs, ¬Unnamed d → ¬Private d := by
    simp [← isPrivate_iff]
  simp only [appRoute?, Option.bind_eq_bind, Option.bind_eq_some_iff, Prod.exists, hfilter]
  constructor
  · rintro ⟨dirs, stem, hdirs, h⟩
    obtain ⟨f, rfl, rfl, rfl⟩ := dirsAndStem?_appDir.1 hdirs
    split at h
    · cases h
    · rename_i hstem
      split at h
      · cases h
      · rename_i hnamed
        exact ⟨f, rfl, ⟨Decidable.not_not.1 hstem, (hprivate _).1 hnamed⟩,
          (Option.some.inj h).symm⟩
  · rintro ⟨f, rfl, happ, rfl⟩
    refine ⟨f.dirs, f.stem, dirsAndStem?_appDir.2 ⟨f, rfl, rfl, rfl⟩, ?_⟩
    rw [if_neg (Decidable.not_not.2 happ.stem_eq), if_neg ((hprivate _).2 happ.named)]
    rfl

theorem pagesRoute?_eq_some_iff {path route : String} :
    pagesRoute? path = some route ↔
      ∃ f : RouteFile, path = f.path pagesDir ∧ f.InPages ∧ route = f.pagesRoute := by
  have hfree (dirs : List (List Char)) (stem : List Char) :
      ¬(isReservedChars stem || dirs.any isReservedChars) = true ↔
        ¬Reserved stem ∧ ∀ d ∈ dirs, ¬Reserved d := by
    simp [← isReservedChars_iff]
  simp only [pagesRoute?, Option.bind_eq_bind, Option.bind_eq_some_iff, Prod.exists]
  constructor
  · rintro ⟨dirs, stem, hdirs, h⟩
    obtain ⟨f, rfl, rfl, rfl⟩ := dirsAndStem?_pagesDir.1 hdirs
    split at h
    · cases h
    · rename_i hparts
      obtain ⟨hstem, hdirs⟩ := (hfree _ _).1 hparts
      exact ⟨f, rfl, ⟨hstem, hdirs⟩, (Option.some.inj h).symm⟩
  · rintro ⟨f, rfl, hpages, rfl⟩
    refine ⟨f.dirs, f.stem, dirsAndStem?_pagesDir.2 ⟨f, rfl, rfl, rfl⟩, ?_⟩
    rw [if_neg ((hfree _ _).2 ⟨hpages.stem_free, hpages.dirs_free⟩)]
    rfl

theorem path_appDir_ne_path_pagesDir (f g : RouteFile) : f.path appDir ≠ g.path pagesDir := by
  intro heq
  have hcomponents := congrArg RoutePath.components heq
  rw [f.components_path appDir (by decide), g.components_path pagesDir (by decide)] at hcomponents
  unfold RouteFile.folders appDir pagesDir at hcomponents
  split at hcomponents <;> split at hcomponents <;> simp at hcomponents

theorem components_src (path : String) :
    RoutePath.components ("src/" ++ path) = "src".toList :: RoutePath.components path := by
  rw [RoutePath.components, String.toList_append]
  exact Text.split_append_sep '/' "src".toList path.toList

/-- A leading `src` is looked through, once. -/
theorem dirsAndStem?_src {root : List (List Char)} (hne : root ≠ [])
    (hsrc : root.head? ≠ some "src".toList) {path : String}
    (hpath : ¬"src/".toList <+: path.toList) :
    dirsAndStem? root ("src/" ++ path) = dirsAndStem? root path := by
  suffices hbelow : below? root (RoutePath.components ("src/" ++ path)) =
      below? root (RoutePath.components path) by
    simp only [dirsAndStem?, hbelow]
  rw [components_src, below?_src]
  by_cases hfirst : (RoutePath.components path).head? = some "src".toList
  · obtain ⟨more, hcomponents⟩ := List.head?_eq_some_iff.1 hfirst
    cases more with
    | cons c cs =>
      have hjoin := Text.join_split '/' path.toList
      change Text.join '/' (RoutePath.components path) = _ at hjoin
      rw [hcomponents] at hjoin
      exact absurd ⟨_, hjoin⟩ hpath
    | nil =>
      -- the whole path is `src`, and nothing is below it
      obtain ⟨first, others, rfl⟩ := List.exists_cons_of_ne_nil hne
      have hfirst : (first == "src".toList) = false := by simpa using hsrc
      rw [hcomponents, below?_src]
      simp only [List.isPrefixOf, hfirst, Bool.false_and]
      rfl
  · rw [below?_of_ne_src hfirst]

/-- A path has a route exactly when it is one of the grammar with allowed parts, and then the route
is the one that the parts spell. No path has a route under both directories, and `src` in front of a
path that does not begin with it changes nothing. -/
theorem route_files_exact :
    (∀ path route : String, appRoute? path = some route ↔
      ∃ f : RouteFile, path = f.path appDir ∧ f.InApp ∧ route = f.appRoute) ∧
    (∀ path route : String, pagesRoute? path = some route ↔
      ∃ f : RouteFile, path = f.path pagesDir ∧ f.InPages ∧ route = f.pagesRoute) ∧
    (∀ path : String, appRoute? path = none ∨ pagesRoute? path = none) ∧
    ∀ path : String, ¬"src/".toList <+: path.toList →
      appRoute? ("src/" ++ path) = appRoute? path ∧
        pagesRoute? ("src/" ++ path) = pagesRoute? path := by
  refine ⟨fun _ _ => appRoute?_eq_some_iff, fun _ _ => pagesRoute?_eq_some_iff, fun path => ?_,
    fun path hpath => ⟨?_, ?_⟩⟩
  · cases happ : appRoute? path with
    | none => exact .inl rfl
    | some appRoute =>
      cases hpages : pagesRoute? path with
      | none => exact .inr rfl
      | some pagesRoute =>
        obtain ⟨f, hf, _⟩ := appRoute?_eq_some_iff.1 happ
        obtain ⟨g, hg, _⟩ := pagesRoute?_eq_some_iff.1 hpages
        exact absurd (hf.symm.trans hg) (path_appDir_ne_path_pagesDir f g)
  · have hparts : dirsAndStem? ["app".toList] ("src/" ++ path) = _ :=
      dirsAndStem?_src (by decide) (by decide) hpath
    simp only [appRoute?, hparts]
  · have hparts : dirsAndStem? ["pages".toList, "api".toList] ("src/" ++ path) = _ :=
      dirsAndStem?_src (by decide) (by decide) hpath
    simp only [pagesRoute?, hparts]

theorem catch_all_file_below_src :
    ¬"src/".toList <+: "pages/api/(v1)/[...slug].ts".toList ∧
      pagesRoute? "pages/api/(v1)/[...slug].ts" = some "/api/(v1)/:slug+" ∧
      pagesRoute? "src/pages/api/(v1)/[...slug].ts" = some "/api/(v1)/:slug+" ∧
      appRoute? "src/pages/api/(v1)/[...slug].ts" = none := by
  have hpath : ¬"src/".toList <+: "pages/api/(v1)/[...slug].ts".toList := by decide
  have hroute : pagesRoute? "pages/api/(v1)/[...slug].ts" = some "/api/(v1)/:slug+" := by
    decide +kernel
  obtain ⟨_, _, hone, hsrc⟩ := route_files_exact
  have hpages : pagesRoute? "src/pages/api/(v1)/[...slug].ts" = some "/api/(v1)/:slug+" :=
    (hsrc _ hpath).2.trans hroute
  refine ⟨hpath, hroute, hpages, (hone _).resolve_right ?_⟩
  rw [hpages]
  exact Option.some_ne_none _

end FileRouter

end RouteAtlas
