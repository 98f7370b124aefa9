import RouteAtlas.Proofs.LoadedProject
import RouteAtlas.Proofs.RelativePaths

set_option autoImplicit false

/-!
# Runs of a project

A project is loaded from a directory, and then files are asked for, one after the other, while the
disk may change. Positions are given once: files, declarations and the positions by which names and
paths refer to them only ever get more, and all references stay good.
-/
namespace RouteAtlas

open Script

namespace ModuleIndex

def Refers (index : ModuleIndex) (file : Nat) (decls : List Declaration) : Prop :=
  ∀ entry ∈ index.bindings ++ index.exports, ∃ d, decls[entry.2]? = some d ∧ d.file = file

theorem Refers.append {index : ModuleIndex} {file : Nat} {decls : List Declaration}
    (h : index.Refers file decls) (more : List Declaration) :
    index.Refers file (decls ++ more) := by
  intro entry hentry
  obtain ⟨d, hd, hfile⟩ := h entry hentry
  have hlt := (List.getElem?_eq_some_iff.1 hd).1
  exact ⟨d, by rwa [List.getElem?_append_left hlt], hfile⟩

theorem mem_bind {names : List String} {id : Nat} {m : NameMap} {entry : String × Nat}
    (h : entry ∈ bind names id m) : entry ∈ m ∨ entry.1 ∈ names ∧ entry.2 = id := by
  induction names generalizing m with
  | nil => exact .inl h
  | cons name rest ih =>
    rcases ih h with h | ⟨hname, hid⟩
    · rcases List.mem_cons.1 h with rfl | h
      · exact .inr ⟨List.mem_cons_self, rfl⟩
      · exact .inl h
    · exact .inr ⟨List.mem_cons_of_mem _ hname, hid⟩

theorem Refers.enter {index : ModuleIndex} {file : Nat} {decls : List Declaration}
    (h : index.Refers file decls) (effect : IndexEffect) :
    (enter file (decls, index) effect).2.Refers file (enter file (decls, index) effect).1 := by
  cases effect with
  | declare name span kind bound exported =>
    intro entry hentry
    have hcases : entry ∈ index.bindings ++ index.exports ∨ entry.2 = decls.length := by
      rcases List.mem_append.1 hentry with hentry | hentry
      · exact (mem_bind hentry).imp (List.mem_append_left _) And.right
      · exact (mem_bind hentry).imp (List.mem_append_right _) And.right
    rcases hcases with hentry | hid
    · exact h.append _ entry hentry
    · exact ⟨⟨file, name, span, kind⟩, by simp [hid, ModuleIndex.enter], rfl⟩
  | star specifier => exact h
  | localExport name exported => exact h

theorem Refers.enterLocal {index : ModuleIndex} {file : Nat} {decls : List Declaration}
    (h : index.Refers file decls) (effect : IndexEffect) :
    (enterLocal index effect).Refers file decls := by
  cases effect with
  | declare name span kind bound exported => exact h
  | star specifier => exact h
  | localExport name exported =>
    simp only [ModuleIndex.enterLocal]
    split
    · rename_i id hid
      have hbound : (name, id) ∈ index.bindings := by
        obtain ⟨before, after, heq, _⟩ := List.lookup_eq_some_iff.1 hid
        simp [heq]
      intro entry hentry
      rcases List.mem_append.1 hentry with hentry | hentry
      · exact h entry (List.mem_append_left _ hentry)
      · rcases List.mem_cons.1 hentry with rfl | hentry
        · exact h (name, id) (List.mem_append_left _ hbound)
        · exact h entry (List.mem_append_right _ hentry)
    · exact h

theorem foldl_enter_refers {file : Nat} (effects : List IndexEffect) {decls : List Declaration}
    {index : ModuleIndex} (h : index.Refers file decls) :
    (effects.foldl (ModuleIndex.enter file) (decls, index)).2.Refers file
      (effects.foldl (ModuleIndex.enter file) (decls, index)).1 := by
  induction effects generalizing decls index with
  | nil => exact h
  | cons effect rest ih => exact ih (h.enter effect)

theorem foldl_enterLocal_refers {file : Nat} (effects : List IndexEffect)
    {decls : List Declaration} {index : ModuleIndex} (h : index.Refers file decls) :
    (effects.foldl ModuleIndex.enterLocal index).Refers file decls := by
  induction effects generalizing index with
  | nil => exact h
  | cons effect rest ih => exact ih (h.enterLocal effect)

theorem ofItems_refers (file : Nat) (decls : List Declaration) (items : List Item) :
    (ofItems file decls items).2.Refers file (ofItems file decls items).1 := by
  apply foldl_enterLocal_refers
  apply foldl_enter_refers
  exact fun _ h => absurd h List.not_mem_nil

end ModuleIndex

namespace Project

def newFile (p : Project) (l : Location) (m : Module) : SourceFile :=
  ⟨p.files.length, l, relPath p.root l, m, (ModuleIndex.ofItems p.files.length p.decls m.items).2⟩

theorem add_files (p : Project) (l : Location) (m : Module) :
    (p.add l m).files = p.files ++ [p.newFile l m] := rfl

theorem add_decls (p : Project) (l : Location) (m : Module) :
    (p.add l m).decls = p.decls ++
      (m.items.flatMap ModuleIndex.effects).filterMap
        (ModuleIndex.declaration? p.files.length) :=
  ModuleIndex.ofItems_decls p.files.length p.decls m.items

theorem add_getElem?_iff {p : Project} {l : Location} {m : Module} {i : Nat} {f : SourceFile} :
    (p.add l m).files[i]? = some f ↔
      p.files[i]? = some f ∨ i = p.files.length ∧ f = p.newFile l m := by
  rw [add_files]
  rcases Nat.lt_trichotomy i p.files.length with hi | rfl | hi
  · rw [List.getElem?_append_left hi]
    simp [Nat.ne_of_lt hi]
  · simp [eq_comm]
  · have hnone : p.files[i]? = none := List.getElem?_eq_none (by omega)
    have hnone' : (p.files ++ [p.newFile l m])[i]? = none :=
      List.getElem?_eq_none (by simp; omega)
    simp [hnone, hnone', Nat.ne_of_gt hi]

theorem add_fileAt? (p : Project) (l : Location) (m : Module) (l' : Location) :
    (p.add l m).fileAt? l' = if l' = l then some p.files.length else p.fileAt? l' := by
  change ((l, p.files.length) :: p.byPath).lookup l' = _
  rw [List.lookup_cons]
  by_cases h : l' = l
  · simp [h]
  · rw [if_neg h, beq_eq_false_iff_ne.2 h]
    rfl

/-- Every file is known by its position and its location, and every name in it stands for a
declaration of that file. -/
structure WellFormed (p : Project) : Prop where
  id_eq : ∀ (i : Nat) (f : SourceFile), p.files[i]? = some f → f.id = i
  fileAt?_iff : ∀ (l : Location) (i : Nat),
    p.fileAt? l = some i ↔ ∃ f, p.files[i]? = some f ∧ f.location = l
  refers : ∀ f ∈ p.files, f.index.Refers f.id p.decls
  named : ∀ f ∈ p.files, f.location.Named
  relPath_eq : ∀ f ∈ p.files, f.relPath = relPath p.root f.location

namespace WellFormed

variable {p : Project}

theorem location_inj (h : p.WellFormed) {i j : Nat} {f g : SourceFile}
    (hf : p.files[i]? = some f) (hg : p.files[j]? = some g) (heq : f.location = g.location) :
    i = j := by
  have hi := (h.fileAt?_iff f.location i).2 ⟨f, hf, rfl⟩
  have hj := (h.fileAt?_iff f.location j).2 ⟨g, hg, heq.symm⟩
  exact Option.some.inj (hi.symm.trans hj)

theorem relPath_inj (h : p.WellFormed) {i j : Nat} {f g : SourceFile}
    (hf : p.files[i]? = some f) (hg : p.files[j]? = some g) (heq : f.relPath = g.relPath) :
    i = j := by
  have hmem := List.mem_of_getElem? hf
  have hmem' := List.mem_of_getElem? hg
  rw [h.relPath_eq f hmem, h.relPath_eq g hmem'] at heq
  exact h.location_inj hf hg (Project.relPath_inj (h.named f hmem) (h.named g hmem') heq)

theorem path_inj (h : p.WellFormed) {f g : SourceFile} (hf : f ∈ p.files)
    (hg : g ∈ p.files) (heq : f.path = g.path) : f = g := by
  have hlocation : f.location = g.location := by
    apply Location.joined_inj (h.named f hf) (h.named g hg)
    have htext := congrArg String.toList heq
    simpa [SourceFile.path, Location.text, Location.joined] using htext
  obtain ⟨i, hi⟩ := List.mem_iff_getElem?.1 hf
  obtain ⟨j, hj⟩ := List.mem_iff_getElem?.1 hg
  have hij := h.location_inj hi hj hlocation
  rw [hij, hj] at hi
  exact (Option.some.inj hi).symm

theorem path_pairwise (h : p.WellFormed) : p.files.Pairwise fun f g => f.path ≠ g.path := by
  rw [List.pairwise_iff_getElem]
  intro i j hi hj hlt heq
  have hfile := h.path_inj (List.getElem_mem hi) (List.getElem_mem hj) heq
  have hij : i = j := h.location_inj (List.getElem?_eq_getElem hi) (List.getElem?_eq_getElem hj)
    (congrArg SourceFile.location hfile)
  omega

theorem start (root : Location) (imports : ImportMap) :
    ({ root, imports } : Project).WellFormed where
  id_eq := by simp
  fileAt?_iff := by simp [fileAt?]
  refers := by simp
  named := by simp
  relPath_eq := by simp

theorem add (h : p.WellFormed) {l : Location} (hl : l.Named) (hnew : p.fileAt? l = none)
    (m : Module) : (p.add l m).WellFormed where
  id_eq i f hf := by
    rcases add_getElem?_iff.1 hf with hf | ⟨rfl, rfl⟩
    · exact h.id_eq i f hf
    · rfl
  fileAt?_iff l' i := by
    rw [add_fileAt?]
    simp only [add_getElem?_iff]
    by_cases hl' : l' = l
    · subst hl'
      have hold : ¬∃ f, p.files[i]? = some f ∧ f.location = l' := by
        rw [← h.fileAt?_iff, hnew]
        simp
      constructor
      · intro hi
        simp only [if_true, Option.some.injEq] at hi
        exact ⟨_, .inr ⟨hi.symm, rfl⟩, rfl⟩
      · rintro ⟨f, hf | ⟨hi, _⟩, hloc⟩
        · exact absurd ⟨f, hf, hloc⟩ hold
        · simp [hi]
    · rw [if_neg hl', h.fileAt?_iff]
      constructor
      · rintro ⟨f, hf, hloc⟩
        exact ⟨f, .inl hf, hloc⟩
      · rintro ⟨f, hf | ⟨_, rfl⟩, hloc⟩
        · exact ⟨f, hf, hloc⟩
        · exact absurd hloc.symm hl'
  refers f hf := by
    rw [add_files] at hf
    rcases List.mem_append.1 hf with hf | hf
    · rw [add_decls]
      exact (h.refers f hf).append _
    · rw [List.mem_singleton.1 hf]
      exact ModuleIndex.ofItems_refers p.files.length p.decls m.items
  named f hf := by
    rw [add_files] at hf
    rcases List.mem_append.1 hf with hf | hf
    · exact h.named f hf
    · rw [List.mem_singleton.1 hf]
      exact hl
  relPath_eq f hf := by
    rw [add_files] at hf
    rcases List.mem_append.1 hf with hf | hf
    · exact h.relPath_eq f hf
    · rw [List.mem_singleton.1 hf]
      rfl

end WellFormed

section LoadAt

variable {disk : Disk} {p : Project} {l : Location}

theorem loadAt_of_loaded {i : Nat} (h : p.fileAt? l = some i) :
    (p.loadAt disk l).value = (p, some i) := by
  simp [loadAt, h]

theorem loadAt_of_error {reason : SkipReason} (hnew : p.fileAt? l = none)
    (h : parseAt disk l = .error reason) : (p.loadAt disk l).value = (p, none) := by
  simp [loadAt, hnew, h]

theorem loadAt_of_ok {m : Module} (hnew : p.fileAt? l = none) (h : parseAt disk l = .ok m) :
    (p.loadAt disk l).value = (p.add l m, some p.files.length) := by
  simp [loadAt, hnew, h]

end LoadAt

theorem Loaded.index_eq {p : Project} (h : p.Loaded) :
    ∀ f ∈ p.files, ∃ decls, f.index = (ModuleIndex.ofItems f.id decls f.module.items).2 := by
  induction h with
  | start root imports => simp
  | @load p _ disk l ih =>
    cases hfile : p.fileAt? l with
    | some i => rwa [loadAt_of_loaded hfile]
    | none =>
      cases hparse : parseAt disk l with
      | error reason => rwa [loadAt_of_error hfile hparse]
      | ok m =>
        rw [loadAt_of_ok hfile hparse, add_files]
        intro f hf
        rcases List.mem_append.1 hf with hf | hf
        · exact ih f hf
        · rw [List.mem_singleton.1 hf]
          exact ⟨p.decls, rfl⟩

theorem WellFormed.loadAt {p : Project} (h : p.WellFormed) (disk : Disk) {l : Location}
    (hl : l.Named) : (p.loadAt disk l).value.1.WellFormed := by
  cases hfile : p.fileAt? l with
  | some i => rwa [loadAt_of_loaded hfile]
  | none =>
    cases hparse : parseAt disk l with
    | error reason => rwa [loadAt_of_error hfile hparse]
    | ok m =>
      rw [loadAt_of_ok hfile hparse]
      exact h.add hl hfile m

theorem WellFormed.loadAll {p : Project} (h : p.WellFormed) (disk : Disk) {ls : List Location}
    (hls : ∀ l ∈ ls, l.Named) : (loadAll disk p ls).value.WellFormed := by
  induction ls generalizing p with
  | nil => exact h
  | cons l rest ih =>
    exact ih (h.loadAt disk (hls l (by simp))) fun l' hl' => hls l' (by simp [hl'])

theorem loadFrom_wellFormed {disk : Disk} (h : disk.Named) {root : Location} (hroot : root.Named) :
    (loadFrom disk root).value.WellFormed :=
  (WellFormed.start root _).loadAll disk (sources_named h hroot)

/-- The projects that come about when one is loaded and files are asked for afterwards, each from
the disk as it is at the time. -/
inductive Run : Project → Prop
  | load {disk : Disk} {root : String} {p : Logged Project} (named : disk.Named)
      (h : load disk root = .ok p) : Run p.value
  | getOrLoad {p : Project} (h : Run p) {disk : Disk} (named : disk.Named) (path : String) :
      Run (getOrLoad disk p path).value.1

theorem Run.wellFormed {p : Project} (h : p.Run) : p.WellFormed := by
  induction h with
  | @load disk root p named h =>
    unfold Project.load at h
    split at h
    · obtain rfl := Except.ok.inj h
      exact loadFrom_wellFormed named (named.locate root)
    · cases h
  | getOrLoad _ named path ih => exact ih.loadAt _ (named.locate path)

theorem Run.loaded {p : Project} (h : p.Run) : p.Loaded := by
  induction h with
  | @load disk root p named h =>
    unfold Project.load at h
    split at h
    · obtain rfl := Except.ok.inj h
      exact loadFrom_loaded disk _
    · cases h
  | getOrLoad _ named path ih => exact ih.load _ _

structure Extends (p p' : Project) : Prop where
  root : p'.root = p.root
  imports : p'.imports = p.imports
  files : p.files <+: p'.files
  decls : p.decls <+: p'.decls
  fileAt? : ∀ (l : Location) (i : Nat), p.fileAt? l = some i → p'.fileAt? l = some i

theorem add_extends {p : Project} {l : Location} (hnew : p.fileAt? l = none) (m : Module) :
    p.Extends (p.add l m) where
  root := rfl
  imports := rfl
  files := List.prefix_append _ _
  decls := by
    rw [add_decls]
    exact List.prefix_append _ _
  fileAt? l' i hi := by
    have hne : l' ≠ l := by
      rintro rfl
      rw [hnew] at hi
      cases hi
    rw [add_fileAt?, if_neg hne, hi]

/-- After every run of loads the project is well-formed, and no two files have one path below the
root. Asking for a loaded file, however its path is spelled and whatever is now on the disk, gives
its position and changes nothing. So does asking for a file that cannot be read or parsed, which
has no position. Any other file is put behind all that there is. -/
theorem runs_append_only {p : Project} (hp : p.Run) :
    p.WellFormed ∧
    (∀ (i j : Nat) (f g : SourceFile), p.files[i]? = some f → p.files[j]? = some g →
      f.relPath = g.relPath → i = j) ∧
    ∀ (disk : Disk) (path : String),
      (∀ (i : Nat) (f : SourceFile), p.files[i]? = some f → disk.locate path = f.location →
        (getOrLoad disk p path).value = (p, some i)) ∧
      (p.fileAt? (disk.locate path) = none →
        (∀ reason, parseAt disk (disk.locate path) = .error reason →
          (getOrLoad disk p path).value = (p, none)) ∧
        ∀ m, parseAt disk (disk.locate path) = .ok m →
          ∃ p' f, (getOrLoad disk p path).value = (p', some p.files.length) ∧ p.Extends p' ∧
            p'.files = p.files ++ [f] ∧ f.location = disk.locate path ∧ f.module = m) := by
  have h := hp.wellFormed
  refine ⟨h, fun i j f g => h.relPath_inj, fun disk path => ⟨fun i f hf hloc => ?_, fun hnew => ?_⟩⟩
  · exact loadAt_of_loaded ((h.fileAt?_iff _ i).2 ⟨f, hf, hloc.symm⟩)
  · refine ⟨fun reason hparse => loadAt_of_error hnew hparse, fun m hparse => ?_⟩
    exact ⟨_, _, loadAt_of_ok hnew hparse, add_extends hnew m, add_files p _ m, rfl, rfl⟩

def oneFile : Disk :=
  ⟨[], .dir [("p", .dir [("a.ts", .file (String.toUTF8 "export const a = 1"))])]⟩

def changedFile : Disk :=
  ⟨["p"], .dir [("p", .dir [("a.ts", .file (String.toUTF8 "export const")),
    ("b.ts", .file (String.toUTF8 "export let b"))])]⟩

theorem oneFile_named : oneFile.Named :=
  ⟨by decide, by simp [oneFile, Entry.named_dir_iff, Entry.Named.file]; decide⟩

theorem changedFile_named : changedFile.Named :=
  ⟨by decide, by simp [changedFile, Entry.named_dir_iff, Entry.Named.file]; decide⟩

/-- A loaded file is found under another spelling of its path, although it can no longer be
parsed. -/
theorem changed_file_found :
    ∃ p : Project, p.Run ∧ p.files.map (·.location) = [["p", "a.ts"], ["p", "b.ts"]] ∧
      p.WellFormed ∧ (parseAt changedFile ["p", "a.ts"]).isOk = false ∧
      (getOrLoad changedFile p "./q/../a.ts").value = (p, some 0) := by
  have hload : Project.load oneFile "/p" = .ok (loadFrom oneFile ["p"]) :=
    if_pos (by decide +kernel)
  have hrun := (Run.load oneFile_named hload).getOrLoad changedFile_named "b.ts"
  have hfiles : (getOrLoad changedFile (loadFrom oneFile ["p"]).value "b.ts").value.1.files.map
      (·.location) = [["p", "a.ts"], ["p", "b.ts"]] := by
    decide +kernel
  generalize (getOrLoad changedFile (loadFrom oneFile ["p"]).value "b.ts").value.1 = p
    at hrun hfiles
  obtain ⟨f, hf, hloc⟩ : ∃ f, p.files[0]? = some f ∧ f.location = ["p", "a.ts"] := by
    have hfirst := congrArg (·[0]?) hfiles
    simpa [List.getElem?_map, Option.map_eq_some_iff] using hfirst
  obtain ⟨hp, _, hcalls⟩ := runs_append_only hrun
  have hpath : changedFile.locate "./q/../a.ts" = ["p", "a.ts"] := by decide +kernel
  exact ⟨p, hrun, hfiles, hp, by decide +kernel,
    (hcalls changedFile _).1 0 f hf (by rw [hpath, hloc])⟩

end Project

end RouteAtlas
