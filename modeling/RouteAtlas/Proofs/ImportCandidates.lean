import Mathlib.Data.List.Forall2
import RouteAtlas.Proofs.DiskContents

set_option autoImplicit false

/-!
# The candidates for an import

An import leads to the first file of one list of locations. For a specifier that is mapped, the list
runs through the targets of all keys that match it, in order, and then through the base directory.
For a relative specifier it depends only on the location that the specifier spells, so any two
spellings of that location lead to the same file.
-/
namespace RouteAtlas.ImportMap

open RouteAtlas.Path (IsPlain IsLead)

/-! ### Keys and targets -/

/-- A key matches a specifier, and `captured` is what its first star stands for. The texts before and
behind the star do not overlap in the specifier. -/
def Matches (key specifier captured : List Char) : Prop :=
  '*' ∉ key ∧ specifier = key ∧ captured = [] ∨
    ∃ before after, '*' ∉ before ∧ key = before ++ '*' :: after ∧
      specifier = before ++ captured ++ after

def Filled (captured target path : List Char) : Prop :=
  '*' ∉ target ∧ path = target ∨
    ∃ before after, '*' ∉ before ∧ target = before ++ '*' :: after ∧
      path = before ++ captured ++ after

theorem capture?_eq_some_iff {key specifier captured : List Char} :
    capture? key specifier = some captured ↔ Matches key specifier captured := by
  unfold capture? Matches
  cases h : Text.splitFirst? '*' key with
  | none =>
    have hstar : '*' ∉ key := Text.splitFirst?_eq_none_iff.1 h
    have hno : ¬∃ before after, '*' ∉ before ∧ key = before ++ '*' :: after ∧
        specifier = before ++ captured ++ after := by
      rintro ⟨before, after, _, rfl, _⟩
      simp at hstar
    rw [or_iff_left hno]
    by_cases hkey : key = specifier
    · simp [← hkey, hstar, eq_comm]
    · simp [hkey, Ne.symm hkey]
  | some cut =>
    obtain ⟨before, after⟩ := cut
    obtain ⟨rfl, hstar⟩ := Text.splitFirst?_eq_some_iff.1 h
    simp only [Option.bind_eq_some_iff, Text.afterLead?_eq_some_iff, Text.beforeTail?_eq_some_iff]
    constructor
    · rintro ⟨_, rfl, rfl⟩
      exact .inr ⟨before, after, hstar, rfl, by simp⟩
    · rintro (⟨hno, _⟩ | ⟨before', after', hstar', hkey, rfl⟩)
      · simp at hno
      · have hsame := Text.splitFirst?_eq_some_iff.2 ⟨hkey, hstar'⟩
        rw [h] at hsame
        cases hsame
        exact ⟨captured ++ after, by simp, rfl⟩

theorem replaceFirst_eq_iff {captured target path : List Char} :
    Text.replaceFirst '*' captured target = path ↔ Filled captured target path := by
  unfold Text.replaceFirst Filled
  cases h : Text.splitFirst? '*' target with
  | none =>
    have hstar : '*' ∉ target := Text.splitFirst?_eq_none_iff.1 h
    have hno : ¬∃ before after, '*' ∉ before ∧ target = before ++ '*' :: after ∧
        path = before ++ captured ++ after := by
      rintro ⟨before, after, _, rfl, _⟩
      simp at hstar
    rw [or_iff_left hno]
    simp [hstar, eq_comm]
  | some cut =>
    obtain ⟨before, after⟩ := cut
    obtain ⟨rfl, hstar⟩ := Text.splitFirst?_eq_some_iff.1 h
    constructor
    · rintro rfl
      exact .inr ⟨before, after, hstar, rfl, rfl⟩
    · rintro (⟨hno, _⟩ | ⟨before', after', hstar', htarget, rfl⟩)
      · simp at hno
      · have hsame := Text.splitFirst?_eq_some_iff.2 ⟨htarget, hstar'⟩
        rw [h] at hsame
        cases hsame
        rfl

/-- The paths to which the entries of a map send a specifier: those of every entry whose key matches,
with the first star of each target replaced. -/
inductive MapsTo (specifier : String) : List (String × List String) → List String → Prop
  | nil : MapsTo specifier [] []
  | skip {key : String} {targets : List String} {rest : List (String × List String)}
      {paths : List String} (h : ∀ captured, ¬Matches key.toList specifier.toList captured)
      (hrest : MapsTo specifier rest paths) : MapsTo specifier ((key, targets) :: rest) paths
  | take {key : String} {targets filled : List String} {rest : List (String × List String)}
      {paths : List String} {captured : List Char}
      (h : Matches key.toList specifier.toList captured)
      (hfilled : List.Forall₂ (fun target path => Filled captured target.toList path.toList)
        targets filled)
      (hrest : MapsTo specifier rest paths) :
      MapsTo specifier ((key, targets) :: rest) (filled ++ paths)

theorem forall₂_filled_iff {captured : List Char} {targets filled : List String} :
    List.Forall₂ (fun target path => Filled captured target.toList path.toList) targets filled ↔
      filled = targets.map fun target =>
        String.ofList (Text.replaceFirst '*' captured target.toList) := by
  induction targets generalizing filled with
  | nil => simp
  | cons target rest ih =>
    cases filled with
    | nil => simp
    | cons path paths =>
      rw [List.forall₂_cons, ih, ← replaceFirst_eq_iff, List.map_cons, List.cons.injEq,
        ← String.toList_inj, String.toList_ofList, eq_comm]

theorem mapped_cons (base : Option String) (key : String) (targets : List String)
    (rest : List (String × List String)) (specifier : String) :
    mapped ⟨base, (key, targets) :: rest⟩ specifier =
      (match capture? key.toList specifier.toList with
      | some captured =>
        targets.map fun target => String.ofList (Text.replaceFirst '*' captured target.toList)
      | none => []) ++ mapped ⟨base, rest⟩ specifier :=
  rfl

theorem mapsTo_iff {base : Option String} {entries : List (String × List String)}
    {specifier : String} {paths : List String} :
    MapsTo specifier entries paths ↔ paths = mapped ⟨base, entries⟩ specifier := by
  constructor
  · intro h
    induction h with
    | nil => rfl
    | @skip key targets rest paths h _ ih =>
      have hnone : capture? key.toList specifier.toList = none :=
        Option.eq_none_iff_forall_ne_some.2 fun captured hcaptured =>
          h captured (capture?_eq_some_iff.1 hcaptured)
      rw [mapped_cons, hnone, List.nil_append, ← ih]
    | take h hfilled _ ih =>
      rw [mapped_cons, capture?_eq_some_iff.2 h, ← ih, forall₂_filled_iff.1 hfilled]
  · rintro rfl
    induction entries with
    | nil => exact .nil
    | cons entry rest ih =>
      obtain ⟨key, targets⟩ := entry
      rw [mapped_cons]
      cases h : capture? key.toList specifier.toList with
      | none =>
        refine .skip (fun captured hcaptured => ?_) ih
        rw [capture?_eq_some_iff.2 hcaptured] at h
        cases h
      | some captured =>
        exact .take (capture?_eq_some_iff.1 h) (forall₂_filled_iff.2 rfl) ih

/-! ### The search list -/

def sourceName? (name : String) (swap : String × String) : Option String :=
  (Text.beforeTail? ('.' :: swap.1.toList) name.toList).bind fun stem =>
    if stem.isEmpty then none else some (String.ofList stem ++ "." ++ swap.2)

def triedExtensions : List String := ["ts", "tsx", "mts", "cts", "js", "jsx", "mjs", "cjs"]

def compiledExtensions : List (String × String) :=
  [("js", "ts"), ("js", "tsx"), ("jsx", "tsx"), ("mjs", "mts"), ("cjs", "cts")]

/-- The locations that are tried for a path: itself, with each extension of a source appended, an
index file in it, and the source of the compiled file that its last name spells. -/
def probes (cwd : Location) (path : String) : List Location :=
  [Path.locate cwd path] ++
    (triedExtensions.map fun ext => Path.locate cwd (path ++ "." ++ ext)) ++
    (triedExtensions.map fun ext => Path.locate cwd path ++ ["index." ++ ext]) ++
    compiledExtensions.filterMap fun swap =>
      ((Path.names path).getLast?.bind (sourceName? · swap)).map fun name =>
        (Path.locate cwd path).dropLast ++ [name]

def searchList (m : ImportMap) (cwd : Location) (specifier : String) (paths : List String) :
    List Location :=
  (paths ++ (m.baseUrl.map (Path.join · specifier)).toList).flatMap (probes cwd)

theorem sourceName?_eq_some_iff {name source : String} {swap : String × String} :
    sourceName? name swap = some source ↔
      ∃ stem, stem ≠ "" ∧ name = stem ++ "." ++ swap.1 ∧ source = stem ++ "." ++ swap.2 := by
  simp only [sourceName?, Option.bind_eq_some_iff, Text.beforeTail?_eq_some_iff]
  constructor
  · rintro ⟨stem, hname, hsource⟩
    split at hsource
    · cases hsource
    · rename_i hne
      refine ⟨String.ofList stem, by simpa using hne, ?_, (Option.some.inj hsource).symm⟩
      rw [← String.toList_inj, hname]
      simp
  · rintro ⟨stem, hne, rfl, rfl⟩
    exact ⟨stem.toList, by simp, by simp [hne]⟩

theorem compiledExtensions_plain : ∀ swap ∈ compiledExtensions, swap.1 ≠ "" ∧ '.' ∉ swap.1.toList ∧
    swap.2 ≠ "" ∧ '/' ∉ swap.2.toList := by
  decide

theorem triedExtensions_plain : ∀ ext ∈ triedExtensions,
    ext ≠ "" ∧ '/' ∉ ext.toList ∧ IsPlain ("index." ++ ext) := by
  decide

/-- The extension of a compiled file is swapped exactly when the last name has a source name. -/
theorem swapped_eq (cwd : Location) (path : String) {swap : String × String}
    (hswap : swap ∈ compiledExtensions) :
    (if Path.extension? path = some swap.1 then
      some (Path.locate cwd (Path.withExtension path swap.2)) else none) =
    ((Path.names path).getLast?.bind (sourceName? · swap)).map fun name =>
      (Path.locate cwd path).dropLast ++ [name] := by
  obtain ⟨hne, hdot, hne', hslash⟩ := compiledExtensions_plain swap hswap
  split
  · rename_i hext
    obtain ⟨stem, hstem, hfile⟩ := (Path.extension?_eq_some_iff hdot).1 hext
    have hlast : (Path.names path).getLast? = some (stem ++ "." ++ swap.1) := by
      unfold Path.fileName? at hfile
      split at hfile
      · split at hfile
        · cases hfile
        · rw [← hfile]
          assumption
      · cases hfile
    have hsource : sourceName? (stem ++ "." ++ swap.1) swap = some (stem ++ "." ++ swap.2) :=
      sourceName?_eq_some_iff.2 ⟨stem, hstem, rfl, rfl⟩
    rw [Path.locate_withExtension cwd hfile hne' hslash, Path.stem_extended hstem hdot, hlast,
      Option.bind_some, hsource, Option.map_some]
  · rename_i hext
    have hnone : (Path.names path).getLast?.bind (sourceName? · swap) = none := by
      rw [Option.eq_none_iff_forall_ne_some]
      intro source hsource
      obtain ⟨name, hlast, hsource⟩ := Option.bind_eq_some_iff.1 hsource
      obtain ⟨stem, hstem, rfl, _⟩ := sourceName?_eq_some_iff.1 hsource
      have hup : stem ++ "." ++ swap.1 ≠ ".." := Path.extended_ne hstem hne (by decide)
      have hfile : Path.fileName? path = some (stem ++ "." ++ swap.1) := by
        simp only [Path.fileName?, hlast, hup, if_false]
      exact hext ((Path.extension?_eq_some_iff hdot).2 ⟨stem, hstem, hfile⟩)
    rw [hnone, Option.map_none]

theorem candidates_eq_probes (cwd : Location) (path : String) :
    candidates cwd path = probes cwd path := by
  have htried : Path.sourceExtensions = triedExtensions := rfl
  have hcompiled : sourceOf = compiledExtensions := rfl
  have hindex : triedExtensions.map (fun ext =>
      Path.locate cwd (Path.join path ("index." ++ ext))) =
      triedExtensions.map fun ext => Path.locate cwd path ++ ["index." ++ ext] :=
    List.map_congr_left fun ext hext =>
      Path.locate_join_name cwd path (triedExtensions_plain ext hext).2.2
  have hswapped : ((compiledExtensions.filter fun p => Path.extension? path = some p.1).map fun p =>
      Path.locate cwd (Path.withExtension path p.2)) =
      compiledExtensions.filterMap fun swap =>
        ((Path.names path).getLast?.bind (sourceName? · swap)).map fun name =>
          (Path.locate cwd path).dropLast ++ [name] := by
    rw [← List.filterMap_eq_map, List.filterMap_filter]
    refine List.filterMap_congr fun swap hswap => ?_
    rw [← swapped_eq cwd path hswap]
    simp only [decide_eq_true_eq, Function.comp_apply]
  simp only [candidates, spellings, probes, htried, hcompiled, List.map_cons, List.map_append, List.map_map,
    Function.comp_def, hindex, hswapped, List.nil_append, List.cons_append]

theorem find?_eq_some_of_later {α : Type} [BEq α] [LawfulBEq α] {p q : α → Bool} {xs : List α}
    {a b : α} (h : xs.find? p = some a) (hq : ∀ x, q x = true ↔ x = b ∨ p x = true)
    (hlater : xs.idxOf a < xs.idxOf b) : xs.find? q = some a := by
  obtain ⟨ha, before, after, rfl, hbefore⟩ := List.find?_eq_some_iff_append.1 h
  have hself : a ∉ before := by
    intro hmem
    have hno := hbefore a hmem
    simp [ha] at hno
  have hb : b ∉ before := by
    intro hmem
    rw [List.idxOf_append, List.idxOf_append, if_neg hself, if_pos hmem, List.idxOf_cons_self]
      at hlater
    have hlt := List.idxOf_lt_length_of_mem hmem
    omega
  refine List.find?_eq_some_iff_append.2 ⟨(hq a).2 (.inr ha), before, after, rfl, fun x hx => ?_⟩
  have hno : ¬q x = true := by
    rw [hq]
    rintro (rfl | hx')
    · exact hb hx
    · have hno := hbefore x hx
      simp [hx'] at hno
  simpa using hno

theorem resolve?_eq_find? (m : ImportMap) (disk : Disk) (fromFile specifier : String) :
    m.resolve? disk fromFile specifier =
      ((m.targets fromFile specifier).flatMap (probes disk.cwd)).find? disk.hasFile := by
  have hprobe (path : String) : probe? disk path = (probes disk.cwd path).find? disk.hasFile := by
    rw [probe?, candidates_eq_probes]
  rw [List.find?_flatMap, resolve?]
  exact congrArg (List.findSome? · _) (funext hprobe)

theorem probes_plain {cwd : Location} (hcwd : cwd.Plain) (path : String) :
    ∀ l ∈ probes cwd path, l.Plain := by
  intro l hl
  rw [← candidates_eq_probes] at hl
  obtain ⟨spelling, _, rfl⟩ := List.mem_map.1 hl
  exact Path.locate_plain fun _ => hcwd

/-- A specifier that is neither relative nor absolute leads to the first file of one list, and to
nothing if there is no file in it. The list is that of the paths to which the keys send it, and of
the base directory. What is found is the normal form of a path, a file stands there, and it stays
what is found when a file is written to a location that comes later in the list. -/
theorem mapped_specifier_first_file (m : ImportMap) (disk : Disk) (fromFile specifier : String)
    (hrelative : isRelative specifier = false) (habsolute : Path.isAbsolute specifier = false) :
    ∃ paths, (∀ ps, MapsTo specifier m.paths ps ↔ ps = paths) ∧
      m.resolve? disk fromFile specifier =
        (m.searchList disk.cwd specifier paths).find? disk.hasFile ∧
      (m.resolve? disk fromFile specifier = none ↔
        ∀ l ∈ m.searchList disk.cwd specifier paths, disk.hasFile l = false) ∧
      ∀ found, m.resolve? disk fromFile specifier = some found →
        Path.isAbsolute found.text = true ∧ (disk.cwd.Plain → found.Plain) ∧
        disk.hasFile found = true ∧
        ∀ (l : Location) (content : ByteArray), disk.root.admitsFile l →
          (m.searchList disk.cwd specifier paths).idxOf found <
            (m.searchList disk.cwd specifier paths).idxOf l →
          m.resolve? (disk.put l (.file content)) fromFile specifier = some found := by
  have hfind (disk : Disk) : m.resolve? disk fromFile specifier =
      (m.searchList disk.cwd specifier (m.mapped specifier)).find? disk.hasFile := by
    rw [resolve?_eq_find?, targets, hrelative, habsolute]
    rfl
  refine ⟨m.mapped specifier, fun ps => mapsTo_iff, hfind disk, ?_, fun found hfound => ?_⟩
  · rw [hfind, List.find?_eq_none]
    simp
  · rw [hfind] at hfound
    have hmem := List.mem_of_find?_eq_some hfound
    obtain ⟨path, _, hprobe⟩ := List.mem_flatMap.1 hmem
    refine ⟨by simp [Path.isAbsolute, Location.text], fun hcwd => probes_plain hcwd path _ hprobe,
      List.find?_some hfound, fun l content hadmits hlater => ?_⟩
    rw [hfind]
    refine find?_eq_some_of_later hfound (fun l' => ?_) hlater
    rw [Disk.hasFile_put hadmits]
    simp

def aliased : ImportMap := ⟨some "/p", [("@/*", ["/p/lib/*", "/p/src/*"])]⟩

def aliasedDisk : Disk :=
  ⟨["p"], .dir [("p", .dir [("src", .dir [("a.tsx", .file .empty)])])]⟩

/-- The file is found behind the second target, also when there is one with a later extension, and
the source of a compiled file is found behind the name of that file. -/
theorem aliased_found_at_second_target :
    isRelative "@/a" = false ∧ Path.isAbsolute "@/a" = false ∧
      aliased.resolve? aliasedDisk "/p/main.ts" "@/a" = some ["p", "src", "a.tsx"] ∧
      aliased.resolve? (aliasedDisk.put ["p", "src", "a.js"] (.file .empty)) "/p/main.ts" "@/a" =
        some ["p", "src", "a.tsx"] ∧
      isRelative "@/a.js" = false ∧ Path.isAbsolute "@/a.js" = false ∧
      aliased.resolve? aliasedDisk "/p/main.ts" "@/a.js" = some ["p", "src", "a.tsx"] := by
  have hrelative : isRelative "@/a" = false := by decide +kernel
  have habsolute : Path.isAbsolute "@/a" = false := by decide +kernel
  have hrelative' : isRelative "@/a.js" = false := by decide +kernel
  have habsolute' : Path.isAbsolute "@/a.js" = false := by decide +kernel
  obtain ⟨paths, hpaths, hfind, _, hfound⟩ :=
    mapped_specifier_first_file aliased aliasedDisk "/p/main.ts" "@/a" hrelative habsolute
  obtain rfl : ["/p/lib/a", "/p/src/a"] = paths :=
    (hpaths _).1 (mapsTo_iff.2 (by decide +kernel : _ = mapped aliased "@/a"))
  have hhere : aliased.resolve? aliasedDisk "/p/main.ts" "@/a" = some ["p", "src", "a.tsx"] := by
    rw [hfind]
    decide +kernel
  obtain ⟨paths', hpaths', hfind', _⟩ :=
    mapped_specifier_first_file aliased aliasedDisk "/p/main.ts" "@/a.js" hrelative' habsolute'
  obtain rfl : ["/p/lib/a.js", "/p/src/a.js"] = paths' :=
    (hpaths' _).1 (mapsTo_iff.2 (by decide +kernel : _ = mapped aliased "@/a.js"))
  have hcompiled : aliased.resolve? aliasedDisk "/p/main.ts" "@/a.js" =
      some ["p", "src", "a.tsx"] := by
    rw [hfind']
    decide +kernel
  exact ⟨hrelative, habsolute, hhere,
    (hfound _ hhere).2.2.2 ["p", "src", "a.js"] .empty (by decide +kernel) (by decide +kernel),
    hrelative', habsolute', hcompiled⟩

/-! ### Relative specifiers -/

def probesIn (dir : Location) (name : String) : List Location :=
  [dir ++ [name]] ++ (triedExtensions.map fun ext => dir ++ [name ++ "." ++ ext]) ++
    (triedExtensions.map fun ext => dir ++ [name, "index." ++ ext]) ++
    compiledExtensions.filterMap fun swap =>
      (sourceName? name swap).map fun source => dir ++ [source]

theorem probes_lead (cwd : Location) {lead name : String} (hlead : IsLead lead)
    (hname : IsPlain name) : probes cwd (lead ++ name) = probesIn (Path.locate cwd lead) name := by
  have hhere := Path.locate_lead cwd hlead hname
  have hlast : (Path.names (lead ++ name)).getLast? = some name := by
    rw [Path.names_lead hlead, Path.names_of_isPlain hname, List.getLast?_concat]
  have hextended : triedExtensions.map (fun ext =>
      Path.locate cwd (lead ++ name ++ "." ++ ext)) =
      triedExtensions.map fun ext => Path.locate cwd lead ++ [name ++ "." ++ ext] := by
    refine List.map_congr_left fun ext hext => ?_
    obtain ⟨hne, hslash, _⟩ := triedExtensions_plain ext hext
    rw [String.append_assoc, String.append_assoc, ← @String.append_assoc name]
    exact Path.locate_lead cwd hlead (Path.isPlain_extended hname.1.1 hname.1.2 hne hslash)
  simp only [probes, probesIn, hhere, hlast, hextended, Option.bind_some, List.dropLast_concat,
    List.append_assoc, List.singleton_append]

theorem isAbsolute_of_isRelative {specifier : String} (h : isRelative specifier = true) :
    Path.isAbsolute specifier = false := by
  have hdot : specifier.toList.head? = some '.' := by
    simp only [isRelative, Bool.or_eq_true, List.isPrefixOf_iff_prefix, decide_eq_true_eq] at h
    rcases h with ((⟨rest, h⟩ | ⟨rest, h⟩) | rfl) | rfl
    · rw [← h]
      rfl
    · rw [← h]
      rfl
    · rfl
    · rfl
  exact Path.isAbsolute_of_dot hdot

theorem resolve?_relative (m : ImportMap) (disk : Disk) {file dir specifier : String}
    (hrelative : isRelative specifier = true) (hplain : IsPlain (Path.lastPart specifier))
    (hdir : Path.parent? file = some dir) :
    ∃ above, disk.locate (Path.join dir specifier) = above ++ [Path.lastPart specifier] ∧
      m.resolve? disk file specifier =
        (probesIn above (Path.lastPart specifier)).find? disk.hasFile := by
  obtain ⟨lead, hlead, hjoin⟩ :=
    Path.exists_lead_join dir (isAbsolute_of_isRelative hrelative)
  refine ⟨Path.locate disk.cwd lead, ?_, ?_⟩
  · rw [Disk.locate, hjoin, Path.locate_lead disk.cwd hlead hplain]
  · rw [resolve?_eq_find?, targets, hrelative, if_pos rfl, hdir]
    simp only [Option.map_some, Option.toList_some, List.flatMap_singleton]
    rw [hjoin, probes_lead disk.cwd hlead hplain]

/-- Two imports that spell the same location lead to the same file, or both to none, whatever the
resolvers map and whether or not the directories that a spelling passes through exist. -/
theorem respelled_imports_agree (disk : Disk) (m m' : ImportMap)
    (file file' specifier specifier' : String)
    (hrelative : isRelative specifier = true) (hrelative' : isRelative specifier' = true)
    (hplain : IsPlain (Path.lastPart specifier)) (hplain' : IsPlain (Path.lastPart specifier'))
    (hsame : (Path.parent? file).map (fun dir => disk.locate (Path.join dir specifier)) =
      (Path.parent? file').map fun dir => disk.locate (Path.join dir specifier')) :
    m.resolve? disk file specifier = m'.resolve? disk file' specifier' := by
  cases hdir : Path.parent? file with
  | none =>
    rw [hdir] at hsame
    have hdir' : Path.parent? file' = none := Option.map_eq_none_iff.1 hsame.symm
    simp [resolve?, targets, hrelative, hrelative', hdir, hdir']
  | some dir =>
    rw [hdir, Option.map_some] at hsame
    obtain ⟨dir', hdir', hlocation⟩ := Option.map_eq_some_iff.1 hsame.symm
    obtain ⟨above, habove, hresolve⟩ := resolve?_relative m disk hrelative hplain hdir
    obtain ⟨above', habove', hresolve'⟩ := resolve?_relative m' disk hrelative' hplain' hdir'
    rw [habove, habove'] at hlocation
    obtain ⟨rfl, hname⟩ := List.append_inj' hlocation rfl
    rw [hresolve, hresolve', (List.cons.inj hname).1]

/-- One import goes down from where it is written. The other passes through a directory that does
not exist, doubled slashes and dots. -/
theorem respelled_import_found :
    isRelative "./src/a" = true ∧ isRelative "../../lib/../src//./none/../a" = true ∧
      IsPlain (Path.lastPart "./src/a") ∧
      IsPlain (Path.lastPart "../../lib/../src//./none/../a") ∧
      ({} : ImportMap).resolve? aliasedDisk "main.ts" "./src/a" =
        aliased.resolve? aliasedDisk "/p/x/y/z.ts" "../../lib/../src//./none/../a" ∧
      ({} : ImportMap).resolve? aliasedDisk "main.ts" "./src/a" = some ["p", "src", "a.tsx"] := by
  have hrelative : isRelative "./src/a" = true := by decide +kernel
  have hrelative' : isRelative "../../lib/../src//./none/../a" = true := by decide +kernel
  have hplain : IsPlain (Path.lastPart "./src/a") := by decide +kernel
  have hplain' : IsPlain (Path.lastPart "../../lib/../src//./none/../a") := by decide +kernel
  exact ⟨hrelative, hrelative', hplain, hplain',
    respelled_imports_agree aliasedDisk {} aliased "main.ts" "/p/x/y/z.ts" "./src/a"
      "../../lib/../src//./none/../a" hrelative hrelative' hplain hplain' (by decide +kernel),
    by decide +kernel⟩

end RouteAtlas.ImportMap
