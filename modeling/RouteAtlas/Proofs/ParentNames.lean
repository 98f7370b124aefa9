import RouteAtlas.Proofs.ConfigChains

set_option autoImplicit false

namespace RouteAtlas

open RouteAtlas.Path

namespace CompilerConfig

variable {c : CompilerConfig} {dir e : String}

theorem parentPath?_of_dot (hparent : c.parent = some e) (hdot : e.toList.head? = some '.') :
    c.parentPath? dir =
      some (if (extension? (join dir e)).isNone then withExtension (join dir e) "json"
        else join dir e) := by
  simp only [parentPath?, hparent, hdot, if_true]

theorem parentPath?_plain_name (hparent : c.parent = some e) (hdot : e.toList.head? = some '.')
    (hname : IsPlain (lastPart e)) (htail : '.' ∉ (lastPart e).toList.tail) :
    c.parentPath? dir = some (join dir e ++ ".json") := by
  obtain ⟨lead, hlead, hjoin⟩ := exists_lead_join dir (isAbsolute_of_dot hdot)
  have hnone : splitExtension? (lastPart e) = none := splitExtension?_eq_none_iff.2 htail
  have hstem : stem (lastPart e) = lastPart e := by rw [stem, hnone]; rfl
  rw [parentPath?_of_dot hparent hdot, hjoin, extension?_lead hlead hname, hnone, Option.map_none,
    Option.isNone_none, if_pos rfl, withExtension_lead hlead hname, hstem]
  simp [String.append_assoc]

theorem parentPath?_json (hparent : c.parent = some (e ++ ".json"))
    (hdot : e.toList.head? = some '.') (hname : IsPlain (lastPart e)) :
    c.parentPath? dir = some (join dir e ++ ".json") := by
  have hne : e ≠ "" := by
    rintro rfl
    cases hdot
  have hdot' : (e ++ ".json").toList.head? = some '.' := by
    rw [String.toList_append, List.head?_append_of_ne_nil _ (by simpa using hne), hdot]
  obtain ⟨lead, hlead, hjoin⟩ := exists_lead_join dir (isAbsolute_of_dot hdot)
  have hext : extension? (join dir (e ++ ".json")) = some "json" := by
    have hplain := isPlain_extended hname.1.1 hname.1.2 (by decide : "json" ≠ "") (by decide)
    have hsplit : splitExtension? (lastPart e ++ "." ++ "json") = some (lastPart e, "json") :=
      splitExtension?_eq_some_iff.2 ⟨rfl, hname.1.1, by decide⟩
    have hjson := extension?_lead hlead hplain
    rw [hsplit, Option.map_some, String.append_assoc, ← String.append_assoc, ← hjoin] at hjson
    rw [join_append dir hne]
    exact hjson
  rw [parentPath?_of_dot hparent hdot', hext, join_append dir hne]
  rfl

theorem parentPath?_dotted_name (hparent : c.parent = some e) (hdot : e.toList.head? = some '.')
    (htail : '.' ∈ (lastPart e).toList.tail) : c.parentPath? dir = some (join dir e) := by
  obtain ⟨lead, hlead, hjoin⟩ := exists_lead_join dir (isAbsolute_of_dot hdot)
  rw [parentPath?_of_dot hparent hdot, hjoin]
  by_cases hup : lastPart e = ".."
  · have hfile : fileName? (lead ++ lastPart e) = none := by
      rw [fileName?, names_lead hlead, hup]
      have hnames : names ".." = [".."] := by decide
      rw [hnames, List.getLast?_concat]
      rfl
    rw [withExtension, hfile]
    exact congrArg some (ite_self _)
  · have hname : IsPlain (lastPart e) := by
      obtain ⟨_, _, _, hslash⟩ := exists_lead e
      refine ⟨⟨?_, hslash⟩, ?_, hup⟩
      · intro hempty
        simp [hempty] at htail
      · intro hdot
        simp [hdot] at htail
    have hsome : splitExtension? (lastPart e) ≠ none := fun hnone =>
      splitExtension?_eq_none_iff.1 hnone htail
    obtain ⟨cut, hcut⟩ := Option.ne_none_iff_exists'.1 hsome
    rw [extension?_lead hlead hname, hcut]
    rfl

theorem at?_put {d : Disk} {l : Location} (hconfig : at? d l = some c) (hl : l.Plain)
    (content : ByteArray) {l' : Location} (hl' : l'.Plain) :
    at? (d.put l (.file content)) l' =
      if l' = l then (String.fromUTF8? content).bind parse? else at? d l' := by
  obtain ⟨old, hold⟩ := ConfigFile.exists_content?_of_at? hl hconfig
  rw [at?, Disk.readAt_of_plain hl', Disk.text?_put (Entry.admitsFile_of_content? hold)]
  split
  · rfl
  · rw [at?, Disk.readAt_of_plain hl']

end CompilerConfig

namespace ImportMap

open CompilerConfig (at? at?_put)
open ConfigFile

variable {d d' : Disk} {l : Location} {base : Except ConfigError ImportMap}

theorem loadChain_succ_congr (hshape : d.outline = d'.outline) {n : Nat} {visited : List Location}
    {path : String} {c : CompilerConfig} {parent : Option String}
    (hnew : d.locate path ∉ visited) (hconfig : at? d (d.locate path) = some c)
    (hconfig' : at? d' (d.locate path) = some { c with parent := parent })
    (hpath : ∀ dir, CompilerConfig.parentPath? dir { c with parent := parent } = c.parentPath? dir)
    (hrest : ∀ path', (d.locate path').Plain →
      loadChain d base n (d.locate path :: visited) path' =
        loadChain d' base n (d.locate path :: visited) path') :
    loadChain d base (n + 1) visited path = loadChain d' base (n + 1) visited path := by
  have hlocate : d'.locate path = d.locate path := Disk.locate_of_outline_eq hshape path
  have hfile : d.isFile = d'.isFile := funext (Disk.isFile_of_outline_eq hshape)
  rw [← hlocate] at hconfig'
  rw [loadChain_eq_extend hnew hconfig, loadChain_eq_extend (by rwa [hlocate]) hconfig', hlocate,
    hpath, ← hfile]
  simp only [ConfigFile.dir]
  cases hnext : (c.parentPath? (Location.text (d.locate path).dropLast)).filter d.isFile with
  | none => rfl
  | some path' =>
    simp only [hrest path' (parentPath?_plain (f := ⟨d.locate path, c⟩) hnext)]
    rfl

/-- A location on the way is not read again, so it does not matter what stands there. -/
theorem loadChain_congr (hshape : d.outline = d'.outline)
    (hsame : ∀ l', l'.Plain → l' ≠ l → at? d l' = at? d' l') {n : Nat} {visited : List Location}
    (hl : l ∈ visited) {path : String} (hplain : (d.locate path).Plain) :
    loadChain d base n visited path = loadChain d' base n visited path := by
  induction n generalizing visited path with
  | zero => rfl
  | succ n ih =>
    have hlocate : d'.locate path = d.locate path := Disk.locate_of_outline_eq hshape path
    by_cases hvisited : d.locate path ∈ visited
    · rw [loadChain_eq_circular hvisited, loadChain_eq_circular (by rwa [hlocate])]
    · have hat := hsame _ hplain fun heq => hvisited (heq ▸ hl)
      cases hconfig : at? d (d.locate path) with
      | none =>
        rw [hconfig, ← hlocate] at hat
        rw [loadChain_eq_unusable hvisited hconfig,
          loadChain_eq_unusable (by rwa [hlocate]) hat.symm]
      | some c =>
        rw [hconfig] at hat
        exact loadChain_succ_congr hshape hvisited hconfig hat.symm (fun _ => rfl)
          fun path' hplain' => ih (List.mem_cons_of_mem _ hl) hplain'

/-- Without a dot in the last name, the written ending changes nothing. -/
theorem load_put_json {path e : String} {c : CompilerConfig} {content : ByteArray}
    (hplain : (d.locate path).Plain) (hconfig : at? d (d.locate path) = some c)
    (hparent : c.parent = some e) (hdot : e.toList.head? = some '.')
    (hcontent : (String.fromUTF8? content).bind CompilerConfig.parse? =
      some { c with parent := some (e ++ ".json") })
    (hname : IsPlain (lastPart e)) (htail : '.' ∉ (lastPart e).toList.tail) :
    load (d.put (d.locate path) (.file content)) path = load d path := by
  obtain ⟨old, hold⟩ := exists_content?_of_at? hplain hconfig
  have hshape : d.outline = (d.put (d.locate path) (.file content)).outline :=
    (Disk.outline_put hold content).symm
  have hat {l' : Location} (hl' : l'.Plain) := at?_put hconfig hplain content hl'
  have hpath (dir : String) : CompilerConfig.parentPath? dir
      { c with parent := some (e ++ ".json") } = c.parentPath? dir := by
    rw [CompilerConfig.parentPath?_json rfl hdot hname,
      CompilerConfig.parentPath?_plain_name hparent hdot hname htail]
  rw [load, load, ← Disk.fileCount_of_outline_eq hshape]
  refine (loadChain_succ_congr hshape List.not_mem_nil hconfig ?_ hpath fun path' hplain' => ?_).symm
  · rw [hat hplain, if_pos rfl, hcontent]
  · -- the file that is written anew is on the way from now on
    refine loadChain_congr hshape (fun l' hl' hne => ?_) List.mem_cons_self hplain'
    rw [hat hl', if_neg hne]

theorem load_of_dotted_name {path e : String} {c : CompilerConfig}
    (hconfig : at? d (d.locate path) = some c) (hparent : c.parent = some e)
    (hdot : e.toList.head? = some '.') (htail : '.' ∈ (lastPart e).toList.tail)
    (hmissing : d.isFile (join (Location.text (d.locate path).dropLast) e) = false) :
    load d path = .ok (c.extend (d.locate path).dropLast {}) := by
  rw [load, loadChain_eq_extend List.not_mem_nil hconfig,
    CompilerConfig.parentPath?_dotted_name hparent hdot htail, ConfigFile.dir, Option.filter_some,
    hmissing]
  rfl

/-- The ending of the configuration that another one extends may be left out, if the rest of its
last name has no dot behind its first character: written anew with the ending, the configuration
gives the same mappings or the same error. With such a dot, and without a file of just this name,
the configuration has its own mappings only. -/
theorem json_ending_optional_without_dots (disk : Disk) (path e : String) (c : CompilerConfig)
    (content : ByteArray) (hplain : (disk.locate path).Plain)
    (hconfig : CompilerConfig.at? disk (disk.locate path) = some c) (hparent : c.parent = some e)
    (hdot : e.toList.head? = some '.')
    (hcontent : (String.fromUTF8? content).bind CompilerConfig.parse? =
      some { c with parent := some (e ++ ".json") }) :
    (Path.IsPlain (Path.lastPart e) → '.' ∉ (Path.lastPart e).toList.tail →
      load disk path = load (disk.put (disk.locate path) (.file content)) path) ∧
    ('.' ∈ (Path.lastPart e).toList.tail →
      disk.isFile (Path.join (Location.text (disk.locate path).dropLast) e) = false →
      load disk path = .ok (c.extend (disk.locate path).dropLast {})) :=
  ⟨fun hname htail => (load_put_json hplain hconfig hparent hdot hcontent hname htail).symm,
    load_of_dotted_name hconfig hparent hdot⟩

deriving instance DecidableEq for CompilerConfig

def extending (parent : String) : ByteArray :=
  String.toUTF8 ("\x7b\"extends\":\"" ++ parent ++ "\"\x7d")

def extendingDisk (parent : String) : Disk :=
  let base := Entry.file (String.toUTF8 "\x7b\"compilerOptions\":\x7b\"baseUrl\":\".\"\x7d\x7d")
  ⟨["p"], .dir [("p", .dir [("a.json", .file (extending parent)), ("b.json", base),
    ("b.c.json", base)])]⟩

theorem plain_parent_inherited :
    ((extendingDisk "./b").locate "a.json").Plain ∧
      CompilerConfig.at? (extendingDisk "./b") ((extendingDisk "./b").locate "a.json") =
        some ⟨some "./b", none, none⟩ ∧
      (String.fromUTF8? (extending "./b.json")).bind CompilerConfig.parse? =
        some ⟨some ("./b" ++ ".json"), none, none⟩ ∧
      load (extendingDisk "./b") "a.json" =
        load ((extendingDisk "./b").put ["p", "a.json"] (.file (extending "./b.json"))) "a.json" ∧
      (load (extendingDisk "./b") "a.json").toOption.map (·.baseUrl) = some (some "/p") ∧
      load (extendingDisk "./b.c") "a.json" = .ok {} := by
  have hplain (parent : String) : ((extendingDisk parent).locate "a.json").Plain := by
    have hlocation : (extendingDisk parent).locate "a.json" = ["p", "a.json"] := by
      change Path.locate ["p"] "a.json" = _
      decide +kernel
    rw [hlocation]
    decide
  have hconfig : CompilerConfig.at? (extendingDisk "./b")
      ((extendingDisk "./b").locate "a.json") = some ⟨some "./b", none, none⟩ := by
    decide +kernel
  have hcontent : (String.fromUTF8? (extending "./b.json")).bind CompilerConfig.parse? =
      some ⟨some ("./b" ++ ".json"), none, none⟩ := by
    decide +kernel
  have hsame := (json_ending_optional_without_dots (extendingDisk "./b") "a.json" "./b" _
    (extending "./b.json") (hplain _) hconfig rfl (by decide) hcontent).1 (by decide) (by decide)
  have hdotted := (json_ending_optional_without_dots (extendingDisk "./b.c") "a.json" "./b.c"
    ⟨some "./b.c", none, none⟩ (extending "./b.c.json") (hplain _) (by decide +kernel) rfl
    (by decide) (by decide +kernel)).2 (by decide) (by decide +kernel)
  exact ⟨hplain _, hconfig, hcontent, hsame, by decide +kernel, hdotted⟩

/-- With a dot in the name there is no file of just this name and one with the ending, and the
base directory is inherited only if the ending is written. -/
theorem dotted_parent_not_inherited :
    CompilerConfig.at? (extendingDisk "./b.c") ["p", "a.json"] = some ⟨some "./b.c", none, none⟩ ∧
      (String.fromUTF8? (extending "./b.c.json")).bind CompilerConfig.parse? =
        some ⟨some ("./b.c" ++ ".json"), none, none⟩ ∧
      (extendingDisk "./b.c").isFile (Path.join "/p" "./b.c") = false ∧
      (extendingDisk "./b.c").isFile (Path.join "/p" ("./b.c" ++ ".json")) = true ∧
      load (extendingDisk "./b.c") "a.json" ≠
        load ((extendingDisk "./b.c").put ["p", "a.json"] (.file (extending "./b.c.json")))
          "a.json" := by
  have hbase : (load (extendingDisk "./b.c") "a.json").toOption.map (·.baseUrl) = some none := by
    decide +kernel
  have hbase' : (load ((extendingDisk "./b.c").put ["p", "a.json"]
      (.file (extending "./b.c.json"))) "a.json").toOption.map (·.baseUrl) = some (some "/p") := by
    decide +kernel
  refine ⟨by decide +kernel, by decide +kernel, by decide +kernel, by decide +kernel, ?_⟩
  intro hsame
  rw [hsame, hbase'] at hbase
  cases hbase

end ImportMap

end RouteAtlas
