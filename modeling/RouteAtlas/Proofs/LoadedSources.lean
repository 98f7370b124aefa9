import RouteAtlas.Proofs.ProjectRuns
import RouteAtlas.Proofs.TreeWalks

set_option autoImplicit false

namespace RouteAtlas

namespace Path

/-- The name of a file that is parsed: it has one of the extensions of scripts, and the ending of no
file that only declares types. -/
def IsSourceName (name : String) : Prop :=
  (∃ stem ext, ext ∈ sourceExtensions ∧ stem ≠ "" ∧ name = stem ++ "." ++ ext) ∧
    ∀ ending ∈ declarationEndings, ∀ before, name ≠ before ++ ending

theorem not_dot_of_mem_sourceExtensions {ext : String} (h : ext ∈ sourceExtensions) :
    '.' ∉ ext.toList := by
  have hall : ∀ ext ∈ sourceExtensions, '.' ∉ ext.toList := by decide
  exact hall ext h

theorem splitExtension?_isSource_iff {name : String} :
    ((splitExtension? name).map fun p => sourceExtensions.contains p.2).getD false = true ↔
      ∃ stem ext, ext ∈ sourceExtensions ∧ stem ≠ "" ∧ name = stem ++ "." ++ ext := by
  constructor
  · intro h
    cases hsplit : splitExtension? name with
    | none =>
      rw [hsplit] at h
      cases h
    | some cut =>
      obtain ⟨stem, ext⟩ := cut
      rw [hsplit] at h
      obtain ⟨hname, hstem, _⟩ := splitExtension?_eq_some_iff.1 hsplit
      exact ⟨stem, ext, List.contains_iff_mem.1 h, hstem, hname⟩
  · rintro ⟨stem, ext, hext, hstem, hname⟩
    rw [splitExtension?_eq_some_iff.2 ⟨hname, hstem, not_dot_of_mem_sourceExtensions hext⟩]
    exact List.contains_iff_mem.2 hext

theorem isSome_beforeTail?_iff {name ending : String} :
    (Text.beforeTail? ending.toList name.toList).isSome = true ↔
      ∃ before, name = before ++ ending := by
  rw [Option.isSome_iff_exists]
  simp only [Text.beforeTail?_eq_some_iff]
  constructor
  · rintro ⟨before, h⟩
    refine ⟨String.ofList before, ?_⟩
    rw [← String.toList_inj, h]
    simp
  · rintro ⟨before, rfl⟩
    exact ⟨before.toList, String.toList_append⟩

theorem isSource_lead {lead name : String} (hlead : IsLead lead) (hname : IsPlain name) :
    isSource (lead ++ name) = true ↔ IsSourceName name := by
  have hdeclares : (!declarationEndings.any fun e =>
      (Text.beforeTail? e.toList name.toList).isSome) = true ↔
      ∀ ending ∈ declarationEndings, ∀ before, name ≠ before ++ ending := by
    rw [Bool.not_eq_true', List.any_eq_false]
    simp only [isSome_beforeTail?_iff, not_exists, ne_eq]
  rw [isSource, fileName?_lead hlead hname]
  simp only [Bool.and_eq_true, hdeclares, splitExtension?_isSource_iff]
  exact and_comm

end Path

theorem Location.exists_lead_text (l : Location) (name : String) :
    ∃ lead, Path.IsLead lead ∧ Location.text (l ++ [name]) = lead ++ name := by
  refine ⟨String.ofList ('/' :: (l.map String.toList).flatMap fun q => q ++ ['/']), ?_, ?_⟩
  · apply Path.isLead_of_getLast?
    rw [String.toList_ofList]
    rcases List.eq_nil_or_concat (l.map String.toList) with hnil | ⟨before, last, hlast⟩
    · rw [hnil]
      rfl
    · rw [List.getLast?_eq_some_iff]
      exact ⟨'/' :: (before.flatMap (fun q => q ++ ['/']) ++ last), by simp [hlast]⟩
  · rw [← String.toList_inj, Location.text, List.map_append, List.map_singleton, Text.join_concat]
    simp

theorem Location.isSource_text_iff {l : Location} {name : String} (h : Path.IsPlain name) :
    Path.isSource (Location.text (l ++ [name])) = true ↔ Path.IsSourceName name := by
  obtain ⟨lead, hlead, htext⟩ := l.exists_lead_text name
  rw [htext, Path.isSource_lead hlead h]

namespace Project

/-- A file that a project in `root` looks into: it has the name of a source, and no directory
between it and the root is ignored. -/
def IsCandidate (disk : Disk) (root l : Location) : Prop :=
  ∃ dirs name, l = root ++ dirs ++ [name] ∧ disk.hasFile l = true ∧ Path.IsSourceName name ∧
    ∀ dir ∈ dirs, dir ∉ ignoredDirs

theorem IsCandidate.plain {disk : Disk} (proper : disk.Proper) {root l : Location}
    (h : IsCandidate disk root l) : l.Plain := by
  obtain ⟨_, _, _, hfile, _⟩ := h
  rw [Disk.hasFile_eq] at hfile
  exact proper.root.plain_of_content?_isSome hfile

/-- The module that the content of a file is read and parsed to. -/
def Holds (disk : Disk) (l : Location) (m : Script.Module) : Prop :=
  ∃ text, disk.text? l = some text ∧
    Script.parseModule? (Script.Dialect.ofExtension (Path.extension? l.text)) text = some m

theorem not_ignored_iff {dirs : List String} :
    (∀ dir ∈ dirs, (!ignoredDirs.contains dir) = true) ↔ ∀ dir ∈ dirs, dir ∉ ignoredDirs := by
  simp only [Bool.not_eq_true', ← Bool.not_eq_true, List.contains_iff_mem]

section Walk

variable {disk : Disk} (proper : disk.Proper) {root : Location} {entries : List (String × Entry)}
  (hroot : disk.entry? root = some (.dir entries))

include proper hroot

theorem mem_sources_iff {l : Location} : l ∈ sources disk root ↔ IsCandidate disk root l := by
  have hproper : (Entry.dir entries).Proper := proper.entry? hroot
  have hcontent (below : Location) :
      disk.root.content? (root ++ below) = (Entry.dir entries).content? below := by
    rw [Entry.content?_append]
    change (disk.entry? root).bind _ = _
    rw [hroot, Option.bind_some]
  rw [sources, List.mem_mergeSort, List.mem_filter, Disk.filesBelow, hroot]
  simp only [List.mem_map, hproper.mem_files_iff, IsCandidate, Disk.hasFile_eq]
  constructor
  · rintro ⟨⟨below, ⟨hsome, hdirs⟩, rfl⟩, hsource⟩
    rcases List.eq_nil_or_concat below with rfl | ⟨dirs, name, hbelow⟩
    · cases hsome
    · rw [List.concat_eq_append] at hbelow
      subst hbelow
      have hplain : Path.IsPlain name := hproper.plain_of_content?_isSome hsome name (by simp)
      rw [List.dropLast_concat, not_ignored_iff] at hdirs
      rw [← List.append_assoc, Location.isSource_text_iff hplain] at hsource
      refine ⟨dirs, name, (List.append_assoc ..).symm, ?_, hsource, hdirs⟩
      rwa [hcontent]
  · rintro ⟨dirs, name, rfl, hsome, hname, hdirs⟩
    rw [List.append_assoc, hcontent] at hsome
    have hplain : Path.IsPlain name := hproper.plain_of_content?_isSome hsome name (by simp)
    refine ⟨⟨dirs ++ [name], ⟨hsome, ?_⟩, (List.append_assoc ..).symm⟩, ?_⟩
    · rwa [List.dropLast_concat, not_ignored_iff]
    · rwa [Location.isSource_text_iff hplain]

theorem sources_nodup : (sources disk root).Nodup := by
  have hproper : (Entry.dir entries).Proper := proper.entry? hroot
  rw [sources, (List.mergeSort_perm _ _).nodup_iff, Disk.filesBelow, hroot]
  exact ((hproper.files_nodup _).map (List.append_right_injective root)).filter _

theorem sources_pairwise : (sources disk root).Pairwise (List.Lex (· < ·)) := by
  refine ((Location.pairwise_mergeSort _).and (sources_nodup proper hroot)).imp fun {l m} h => ?_
  exact (Location.le_iff.1 h.1).resolve_left h.2

end Walk

theorem parseAt_eq_ok_iff {disk : Disk} {l : Location} (hl : l.Plain) {m : Script.Module} :
    parseAt disk l = .ok m ↔ Holds disk l m := by
  have hread := Disk.readAt_of_plain (d := disk) hl
  unfold parseAt Holds
  cases htext : disk.readAt l with
  | error reason =>
    rw [htext] at hread
    simp [← hread, Except.toOption]
  | ok text =>
    rw [htext] at hread
    simp only [← hread, Except.toOption, Option.some.injEq, exists_eq_left']
    cases Script.parseModule? (Script.Dialect.ofExtension (Path.extension? l.text)) text <;> simp

def parsed? (disk : Disk) (l : Location) : Option (Location × Script.Module) :=
  (parseAt disk l).toOption.map (l, ·)

theorem parsed?_eq_some_iff {disk : Disk} {l l' : Location} {m : Script.Module} :
    parsed? disk l = some (l', m) ↔ l = l' ∧ parseAt disk l = .ok m := by
  unfold parsed?
  cases parseAt disk l <;> simp [Except.toOption]

/-- Of files that are not loaded yet, those that can be parsed are put behind the others. -/
theorem loadAll_contents {disk : Disk} {p : Project} {ls : List Location} (hnodup : ls.Nodup)
    (hnew : ∀ l ∈ ls, p.fileAt? l = none) :
    (loadAll disk p ls).value.files.map (fun f => (f.location, f.module)) =
      p.files.map (fun f => (f.location, f.module)) ++
        ls.filterMap (parsed? disk) := by
  induction ls generalizing p with
  | nil => exact (List.append_nil _).symm
  | cons l rest ih =>
    obtain ⟨hl, hrest⟩ := List.nodup_cons.1 hnodup
    obtain ⟨hnone, hnew⟩ := List.forall_mem_cons.1 hnew
    change (loadAll disk (p.loadAt disk l).value.1 rest).value.files.map _ = _
    cases hparse : parseAt disk l with
    | error reason =>
      have hparsed : parsed? disk l = none := by
        rw [parsed?, hparse]
        rfl
      rw [loadAt_of_error hnone hparse, ih hrest hnew, List.filterMap_cons_none hparsed]
    | ok m =>
      have hnew' : ∀ l' ∈ rest, (p.add l m).fileAt? l' = none := by
        intro l' hl'
        have hne : l' ≠ l := fun heq => hl (heq ▸ hl')
        rw [add_fileAt?, if_neg hne, hnew l' hl']
      have hparsed : parsed? disk l = some (l, m) := parsed?_eq_some_iff.2 ⟨rfl, hparse⟩
      rw [loadAt_of_ok hnone hparse, ih hrest hnew', add_files, List.map_append,
        List.filterMap_cons_some hparsed, List.append_assoc]
      rfl

theorem loadFrom_contents {disk : Disk} {root : Location} (hnodup : (sources disk root).Nodup) :
    (loadFrom disk root).value.files.map (fun f => (f.location, f.module)) =
      (sources disk root).filterMap (parsed? disk) := by
  rw [loadFrom_value, loadAll_contents hnodup fun _ _ => rfl]
  rfl

theorem exists_dir_of_isDir {disk : Disk} (proper : disk.Proper) {root : String}
    (h : disk.isDir root = true) :
    ∃ entries, disk.entry? (disk.locate root) = some (.dir entries) := by
  unfold Disk.isDir at h
  cases hfollow : disk.follow root with
  | error reason => rw [hfollow] at h; cases h
  | ok e =>
    rw [hfollow] at h
    cases e with
    | file content => cases h
    | dir entries => exact ⟨entries, Disk.entry?_of_follow proper.cwd hfollow⟩

/-- Loading a directory gives one project, in whatever order the directories on the disk list their
entries. Its files are the candidates that can be read and parsed, each with its module, in the
order of their locations and numbered from zero. -/
theorem load_ignores_listing_order {disk : Disk} (proper : disk.Proper) {root : String}
    (hroot : disk.isDir root = true) :
    ∃ p : Logged Project, load disk root = .ok p ∧
      (∀ disk', disk.Relisted disk' → load disk' root = .ok p) ∧
      (∀ l, (∃ f ∈ p.value.files, f.location = l) ↔
        IsCandidate disk (disk.locate root) l ∧ ∃ m, Holds disk l m) ∧
      (p.value.files.map (·.location)).Pairwise (List.Lex (· < ·)) ∧
      ∀ (i : Nat) (f : SourceFile), p.value.files[i]? = some f →
        f.id = i ∧ Holds disk f.location f.module := by
  obtain ⟨entries, hentry⟩ := exists_dir_of_isDir proper hroot
  have hload : load disk root = .ok (loadFrom disk (disk.locate root)) := if_pos hroot
  have hcontents := loadFrom_contents (sources_nodup proper hentry)
  have hmem {l : Location} {m : Script.Module} :
      (∃ f ∈ (loadFrom disk (disk.locate root)).value.files, (f.location, f.module) = (l, m)) ↔
        IsCandidate disk (disk.locate root) l ∧ Holds disk l m := by
    rw [← List.mem_map, hcontents, List.mem_filterMap]
    constructor
    · rintro ⟨l', hl, hparsed⟩
      obtain ⟨rfl, hparse⟩ := parsed?_eq_some_iff.1 hparsed
      have hcandidate := (mem_sources_iff proper hentry).1 hl
      exact ⟨hcandidate, (parseAt_eq_ok_iff (hcandidate.plain proper)).1 hparse⟩
    · rintro ⟨hcandidate, hholds⟩
      have hparse := (parseAt_eq_ok_iff (hcandidate.plain proper)).2 hholds
      exact ⟨l, (mem_sources_iff proper hentry).2 hcandidate,
        parsed?_eq_some_iff.2 ⟨rfl, hparse⟩⟩
  refine ⟨_, hload, fun disk' h => ?_, fun l => ?_, ?_, fun i f hf => ⟨?_, ?_⟩⟩
  · rw [load_relisted proper h, hload]
  · constructor
    · rintro ⟨f, hf, rfl⟩
      obtain ⟨hcandidate, hholds⟩ := hmem.1 ⟨f, hf, rfl⟩
      exact ⟨hcandidate, _, hholds⟩
    · rintro ⟨hcandidate, m, hholds⟩
      obtain ⟨f, hf, heq⟩ := hmem.2 ⟨hcandidate, hholds⟩
      exact ⟨f, hf, congrArg Prod.fst heq⟩
  · have hlocations : (loadFrom disk (disk.locate root)).value.files.map (·.location) =
        ((sources disk (disk.locate root)).filterMap (parsed? disk)).map Prod.fst := by
      rw [← hcontents, List.map_map]
      rfl
    rw [hlocations, List.pairwise_map]
    refine (sources_pairwise proper hentry).filterMap _ fun l l' hlex x hx x' hx' => ?_
    obtain ⟨rfl, _⟩ := parsed?_eq_some_iff.1 hx
    obtain ⟨rfl, _⟩ := parsed?_eq_some_iff.1 hx'
    exact hlex
  · exact (loadFrom_loaded disk _).indexed.id_eq i f hf
  · exact (hmem.1 ⟨f, List.mem_of_getElem? hf, rfl⟩).2

def mixedDisk (order : List (String × Entry) → List (String × Entry)) : Disk :=
  ⟨[], .dir [("p", .dir (order
    [("a", .dir (order
        [("x.ts", .file (String.toUTF8 "export const x = 1")),
          ("y.ts", .file (String.toUTF8 "export const = ;"))])),
      ("b.d.ts", .file (String.toUTF8 "export const b: number")),
      ("b.ts", .file (String.toUTF8 "export const b = 1")),
      ("dist", .dir [("c.ts", .file (String.toUTF8 "export const c = 1"))])]))]⟩

theorem mixedDisk_proper : (mixedDisk id).Proper := by
  refine ⟨by decide, ?_⟩
  simp [mixedDisk, Entry.proper_dir_iff, Entry.Proper.file]
  decide

theorem mixedDisk_relisted : (mixedDisk id).Relisted (mixedDisk List.reverse) := by
  refine ⟨rfl, ?_⟩
  simp [mixedDisk, Entry.relisted_dir_iff, Entry.Relisted.file]
  decide

theorem mixed_directory_loaded :
    (mixedDisk id).isDir "/p" = true ∧ ∃ p : Logged Project,
      load (mixedDisk id) "/p" = .ok p ∧ load (mixedDisk List.reverse) "/p" = .ok p ∧
      p.value.files.map (·.location) = [["p", "a", "x.ts"], ["p", "b.ts"]] := by
  have hroot : (mixedDisk id).isDir "/p" = true := by decide +kernel
  obtain ⟨p, hload, hrelisted, _⟩ := load_ignores_listing_order mixedDisk_proper hroot
  refine ⟨hroot, p, hload, hrelisted _ mixedDisk_relisted, ?_⟩
  have hfrom : load (mixedDisk id) "/p" = .ok (loadFrom (mixedDisk id) ["p"]) :=
    if_pos hroot
  have hsources : sources (mixedDisk id) ["p"] =
      [["p", "a", "x.ts"], ["p", "a", "y.ts"], ["p", "b.ts"]] :=
    (List.mergeSort_of_pairwise (by decide +kernel)).trans (by decide +kernel)
  obtain rfl := Except.ok.inj (hload.symm.trans hfrom)
  rw [loadFrom_value, hsources]
  decide +kernel

end Project

end RouteAtlas
