import Mathlib.Data.List.Nodup
import Mathlib.Data.List.Perm.Subperm
import RouteAtlas.Project.CompilerConfig
import RouteAtlas.Proofs.DiskContents

set_option autoImplicit false

/-!
# Chains of configurations

A configuration leads to the one that it extends, and so on. If this comes to an end, every file on
the way has been read and none twice, and the mappings are those of the whole chain, the nearest
configuration first. It comes to no end exactly when a file cannot be used or comes up again.
-/
namespace RouteAtlas

structure ConfigFile where
  location : Location
  config : CompilerConfig

namespace ConfigFile

def dir (f : ConfigFile) : Location := f.location.dropLast

def ownBase? (f : ConfigFile) : Option String :=
  f.config.baseUrl.map fun b => (Path.locate f.dir b).text

def mappings (f : ConfigFile) : List (String × List String) := f.config.paths.getD []

/-- Where the configuration is that this one extends, if it names an existing file. -/
def parent? (disk : Disk) (f : ConfigFile) : Option Location :=
  ((f.config.parentPath? f.dir.text).filter disk.isFile).map disk.locate

/-- The base directory that the nearest configuration of a chain sets. -/
def base? (chain : List ConfigFile) : Option String := chain.findSome? ownBase?

/-- The directory to which the targets of the first configuration of a chain are joined. -/
def anchor (f : ConfigFile) (farther : List ConfigFile) : String :=
  (base? (f :: farther)).getD f.dir.text

/-- All patterns of a chain, those of its farthest configuration first. -/
def patterns (chain : List ConfigFile) : List String :=
  chain.reverse.flatMap fun f => f.mappings.map (·.1)

/-- The mappings of a chain, whose first configuration is the one that extends the others. -/
def inherit (chain : List ConfigFile) : ImportMap :=
  chain.foldr (fun f inherited => f.config.extend f.dir inherited) {}

end ConfigFile

namespace CompilerConfig

def at? (disk : Disk) (l : Location) : Option CompilerConfig :=
  (disk.readAt l).toOption.bind parse?

def next? (disk : Disk) (l : Location) : Option Location :=
  (at? disk l).bind fun c => ConfigFile.parent? disk ⟨l, c⟩

/-- The location that is as many configurations away as the number says. -/
def ancestor? (disk : Disk) (l : Location) : Nat → Option Location
  | 0 => some l
  | n + 1 => (next? disk l).bind fun parent => ancestor? disk parent n

end CompilerConfig

namespace ImportMap

/-! ### Entering patterns -/

theorem lookup_entry (pattern p : String) (targets : List String)
    (paths : List (String × List String)) :
    ((p, targets) :: paths).lookup pattern =
      if pattern = p then some targets else paths.lookup pattern := by
  rw [List.lookup_cons]
  by_cases h : pattern = p
  · simp [h]
  · rw [if_neg h, beq_eq_false_iff_ne.2 h]

theorem lookup_eq_none {pattern : String} {paths : List (String × List String)}
    (h : pattern ∉ paths.map (·.1)) : paths.lookup pattern = none := by
  rw [List.lookup_eq_none_iff]
  intro entry hentry
  rw [bne_iff_ne]
  rintro rfl
  exact h (List.mem_map_of_mem hentry)

theorem lookup_setPath (pattern p : String) (targets : List String)
    (paths : List (String × List String)) :
    (setPath p targets paths).lookup pattern =
      if pattern = p then some targets else paths.lookup pattern := by
  induction paths with
  | nil => exact lookup_entry pattern p targets []
  | cons entry rest ih =>
    obtain ⟨q, ts⟩ := entry
    rw [setPath, lookup_entry]
    by_cases hq : q = p
    · rw [if_pos hq, lookup_entry, hq]
      split <;> rfl
    · rw [if_neg hq, lookup_entry, ih]
      by_cases h : pattern = q
      · rw [if_pos h, if_neg (h ▸ hq), if_pos h]
      · rw [if_neg h, if_neg h]

theorem keys_setPath (p : String) (targets : List String) (paths : List (String × List String)) :
    (setPath p targets paths).map (·.1) =
      if p ∈ paths.map (·.1) then paths.map (·.1) else paths.map (·.1) ++ [p] := by
  induction paths with
  | nil => rfl
  | cons entry rest ih =>
    obtain ⟨q, ts⟩ := entry
    by_cases hq : q = p
    · simp [setPath, hq]
    · by_cases hmem : p ∈ rest.map (·.1)
      · rw [if_pos hmem] at ih
        simp [setPath, hq, ih, hmem]
      · rw [if_neg hmem] at ih
        simp only [setPath, hq, if_false, List.map_cons, ih]
        rw [if_neg (by simp [Ne.symm hq, hmem])]
        rfl

theorem keys_setPath_eraseDups {known : List String} {paths : List (String × List String)}
    (h : paths.map (·.1) = known.eraseDups) (p : String) (targets : List String) :
    (setPath p targets paths).map (·.1) = (known ++ [p]).eraseDups := by
  rw [keys_setPath, h, List.eraseDups_append]
  by_cases hp : p ∈ known
  · simp [List.removeAll, hp]
  · rw [if_neg (by simpa using hp)]
    simp [List.removeAll, hp]
    rfl

def enterAll (f : List String → List String) (entries paths : List (String × List String)) :
    List (String × List String) :=
  entries.foldl (fun ps entry => setPath entry.1 (f entry.2) ps) paths

theorem lookup_enterAll (f : List String → List String) (pattern : String)
    {entries : List (String × List String)} (h : (entries.map (·.1)).Nodup)
    (paths : List (String × List String)) :
    (enterAll f entries paths).lookup pattern =
      ((entries.lookup pattern).map f).or (paths.lookup pattern) := by
  induction entries generalizing paths with
  | nil => rfl
  | cons entry rest ih =>
    obtain ⟨p, targets⟩ := entry
    obtain ⟨hp, hrest⟩ := List.nodup_cons.1 h
    have hstep : (enterAll f ((p, targets) :: rest) paths).lookup pattern =
        ((rest.lookup pattern).map f).or ((setPath p (f targets) paths).lookup pattern) :=
      ih hrest _
    rw [hstep, lookup_setPath, lookup_entry]
    by_cases hpattern : pattern = p
    · subst hpattern
      simp [lookup_eq_none hp]
    · simp [hpattern]

theorem keys_enterAll (f : List String → List String) {known : List String}
    {paths : List (String × List String)} (h : paths.map (·.1) = known.eraseDups)
    (entries : List (String × List String)) :
    (enterAll f entries paths).map (·.1) = (known ++ entries.map (·.1)).eraseDups := by
  induction entries generalizing known paths with
  | nil =>
    rw [List.map_nil, List.append_nil, ← h]
    rfl
  | cons entry rest ih =>
    have hstep := ih (keys_setPath_eraseDups h entry.1 (f entry.2))
    rw [List.append_assoc] at hstep
    exact hstep

theorem nodup_keys_enterAll (f : List String → List String)
    {paths : List (String × List String)} (h : (paths.map (·.1)).Nodup)
    (entries : List (String × List String)) : ((enterAll f entries paths).map (·.1)).Nodup := by
  induction entries generalizing paths with
  | nil => exact h
  | cons entry rest ih =>
    refine ih ?_
    rw [keys_setPath]
    split
    · exact h
    · rename_i hnew
      exact List.nodup_append.2 ⟨h, by simp, by
        rintro a ha b hb rfl
        exact hnew (List.mem_singleton.1 hb ▸ ha)⟩

end ImportMap

open ImportMap

theorem CompilerConfig.optional?_eq_some {α : Type} {decode? : Json → Option α}
    {field : Option Json} {a : α} (h : optional? decode? field = some (some a)) :
    ∃ document, decode? document = some a := by
  unfold optional? at h
  split at h
  · cases h
  · cases h
  · rename_i document _
    exact ⟨document, by simpa using h⟩

theorem CompilerConfig.nodup_of_parse? {text : String} {c : CompilerConfig}
    (h : parse? text = some c) : ((c.paths.getD []).map (·.1)).Nodup := by
  have hpaths {document : Json} {paths : List (String × List String)}
      (h : decodePaths? document = some paths) : (paths.map (·.1)).Nodup := by
    unfold decodePaths? at h
    obtain ⟨members, _, h⟩ := Option.bind_eq_some_iff.1 h
    obtain ⟨entries, _, h⟩ := Option.bind_eq_some_iff.1 h
    rw [← Option.some.inj h]
    exact @nodup_keys_enterAll id [] List.nodup_nil entries
  have hoptions {document : Json} {options : Option String × Option (List (String × List String))}
      (h : decodeOptions? document = some options) : ((options.2.getD []).map (·.1)).Nodup := by
    unfold decodeOptions? at h
    obtain ⟨fields, _, h⟩ := Option.bind_eq_some_iff.1 h
    split at h
    · obtain ⟨baseUrl, _, h⟩ := Option.bind_eq_some_iff.1 h
      obtain ⟨paths, hdecode, h⟩ := Option.bind_eq_some_iff.1 h
      rw [← Option.some.inj h]
      cases paths with
      | none => exact List.nodup_nil
      | some paths =>
        obtain ⟨document, hdocument⟩ := optional?_eq_some hdecode
        exact hpaths hdocument
    · cases h
  obtain ⟨document, _, h⟩ := Option.bind_eq_some_iff.1 h
  unfold decode? at h
  obtain ⟨fields, _, h⟩ := Option.bind_eq_some_iff.1 h
  split at h
  · obtain ⟨parent, _, h⟩ := Option.bind_eq_some_iff.1 h
    obtain ⟨options, hdecode, h⟩ := Option.bind_eq_some_iff.1 h
    rw [← Option.some.inj h]
    cases options with
    | none => exact List.nodup_nil
    | some options =>
      obtain ⟨document, hdocument⟩ := optional?_eq_some hdecode
      exact hoptions hdocument
  · cases h

namespace ConfigFile

/-! ### What a chain inherits -/

theorem inherit_baseUrl (chain : List ConfigFile) : (inherit chain).baseUrl = base? chain := by
  induction chain with
  | nil => rfl
  | cons f farther ih =>
    have hextend : (inherit (f :: farther)).baseUrl =
        f.ownBase?.or (inherit farther).baseUrl := by
      change (f.config.extend f.dir (inherit farther)).baseUrl = _
      unfold CompilerConfig.extend ownBase?
      cases f.config.baseUrl <;> rfl
    rw [hextend, ih, base?, base?, List.findSome?_cons]
    cases f.ownBase? <;> rfl

theorem inherit_paths (f : ConfigFile) (farther : List ConfigFile) :
    (inherit (f :: farther)).paths =
      enterAll (List.map (Path.join (anchor f farther))) f.mappings (inherit farther).paths := by
  rw [anchor, ← inherit_baseUrl]
  rfl

theorem inherit_patterns (chain : List ConfigFile) :
    (inherit chain).paths.map (·.1) = (patterns chain).eraseDups := by
  induction chain with
  | nil => rfl
  | cons f farther ih =>
    have hsplit : patterns (f :: farther) = patterns farther ++ f.mappings.map (·.1) := by
      simp [patterns]
    rw [inherit_paths, keys_enterAll _ ih, hsplit]

/-- The nearest configuration that lists a pattern gives its targets. -/
theorem inherit_lookup {nearer farther : List ConfigFile} {f : ConfigFile} {pattern : String}
    {targets : List String}
    (hnodup : ∀ g ∈ nearer ++ f :: farther, (g.mappings.map (·.1)).Nodup)
    (hnearer : ∀ g ∈ nearer, pattern ∉ g.mappings.map (·.1))
    (hlookup : f.mappings.lookup pattern = some targets) :
    (inherit (nearer ++ f :: farther)).paths.lookup pattern =
      some (targets.map (Path.join (anchor f farther))) := by
  induction nearer with
  | nil =>
    rw [List.nil_append, inherit_paths, lookup_enterAll _ _ (hnodup f (by simp)), hlookup]
    rfl
  | cons g rest ih =>
    rw [List.cons_append, inherit_paths, lookup_enterAll _ _ (hnodup g (by simp)),
      lookup_eq_none (hnearer g (by simp))]
    exact ih (fun g hg => hnodup g (List.mem_cons_of_mem _ hg))
      fun g hg => hnearer g (List.mem_cons_of_mem _ hg)

/-! ### Chains that come to an end -/

/-- The configurations from a location on, each of which extends the next one, up to one that
extends no other. -/
inductive Chain (disk : Disk) : Location → List ConfigFile → Prop
  | last {l : Location} {c : CompilerConfig} (h : CompilerConfig.at? disk l = some c)
      (hend : parent? disk ⟨l, c⟩ = none) : Chain disk l [⟨l, c⟩]
  | next {l parent : Location} {c : CompilerConfig} {farther : List ConfigFile}
      (h : CompilerConfig.at? disk l = some c) (hparent : parent? disk ⟨l, c⟩ = some parent)
      (hrest : Chain disk parent farther) : Chain disk l (⟨l, c⟩ :: farther)

variable {disk : Disk} {l : Location} {chain : List ConfigFile}

theorem Chain.unique {chain' : List ConfigFile} (h : Chain disk l chain)
    (h' : Chain disk l chain') : chain = chain' := by
  induction h generalizing chain' with
  | last hat hend =>
    cases h' with
    | last hat' _ => rw [Option.some.inj (hat.symm.trans hat')]
    | next hat' hparent' _ =>
      obtain rfl := Option.some.inj (hat.symm.trans hat')
      rw [hend] at hparent'
      cases hparent'
  | next hat hparent _ ih =>
    cases h' with
    | last hat' hend' =>
      obtain rfl := Option.some.inj (hat.symm.trans hat')
      rw [hparent] at hend'
      cases hend'
    | next hat' hparent' hrest' =>
      obtain rfl := Option.some.inj (hat.symm.trans hat')
      obtain rfl := Option.some.inj (hparent.symm.trans hparent')
      rw [ih hrest']

theorem Chain.at? (h : Chain disk l chain) :
    ∀ f ∈ chain, CompilerConfig.at? disk f.location = some f.config := by
  induction h with
  | last hat _ => simpa using hat
  | next hat _ _ ih => exact List.forall_mem_cons.2 ⟨hat, ih⟩

theorem Chain.nodup_mappings (h : Chain disk l chain) :
    ∀ f ∈ chain, (f.mappings.map (·.1)).Nodup := by
  intro f hf
  obtain ⟨_, _, hparse⟩ := Option.bind_eq_some_iff.1 (h.at? f hf)
  exact CompilerConfig.nodup_of_parse? hparse

theorem Chain.from_mem (h : Chain disk l chain) {f : ConfigFile} (hf : f ∈ chain) :
    ∃ chain', Chain disk f.location chain' ∧ chain'.length ≤ chain.length := by
  induction h with
  | last hat hend =>
    rw [List.mem_singleton.1 hf]
    exact ⟨_, .last hat hend, Nat.le_refl _⟩
  | next hat hparent hrest ih =>
    rcases List.mem_cons.1 hf with rfl | hf
    · exact ⟨_, .next hat hparent hrest, Nat.le_refl _⟩
    · obtain ⟨chain', hchain', hle⟩ := ih hf
      exact ⟨chain', hchain', by simp; omega⟩

/-- A configuration that came up again would begin the same chain and a shorter one. -/
theorem Chain.nodup (h : Chain disk l chain) : (chain.map (·.location)).Nodup := by
  induction h with
  | last _ _ => simp
  | @next l parent c farther hat hparent hrest ih =>
    refine List.nodup_cons.2 ⟨fun hmem => ?_, ih⟩
    obtain ⟨f, hf, hlocation⟩ := List.mem_map.1 hmem
    obtain ⟨chain', hchain', hle⟩ := hrest.from_mem hf
    rw [hlocation] at hchain'
    have hlength := congrArg List.length ((Chain.next hat hparent hrest).unique hchain')
    rw [List.length_cons] at hlength
    omega

theorem Chain.ancestor? (h : Chain disk l chain) (n : Nat) :
    CompilerConfig.ancestor? disk l n = (chain[n]?).map (·.location) := by
  induction h generalizing n with
  | last hat hend =>
    cases n with
    | zero => rfl
    | succ n => simp [CompilerConfig.ancestor?, CompilerConfig.next?, hat, hend]
  | next hat hparent _ ih =>
    cases n with
    | zero => rfl
    | succ n => simp [CompilerConfig.ancestor?, CompilerConfig.next?, hat, hparent, ih]

theorem exists_chain_of_ancestor?_eq_none {n : Nat}
    (hend : CompilerConfig.ancestor? disk l n = none)
    (hat : ∀ m l', CompilerConfig.ancestor? disk l m = some l' →
      CompilerConfig.at? disk l' ≠ none) : ∃ chain, Chain disk l chain := by
  induction n generalizing l with
  | zero => cases hend
  | succ n ih =>
    obtain ⟨c, hc⟩ := Option.ne_none_iff_exists'.1 (hat 0 l rfl)
    cases hparent : parent? disk ⟨l, c⟩ with
    | none => exact ⟨_, .last hc hparent⟩
    | some parent =>
      have hnext : CompilerConfig.next? disk l = some parent := by
        rw [CompilerConfig.next?, hc]
        exact hparent
      have hstep (m : Nat) : CompilerConfig.ancestor? disk l (m + 1) =
          CompilerConfig.ancestor? disk parent m := by
        rw [CompilerConfig.ancestor?, hnext]
        rfl
      obtain ⟨farther, hrest⟩ := ih (hstep n ▸ hend) fun m l' hm => hat (m + 1) l' (hstep m ▸ hm)
      exact ⟨_, .next hc hparent hrest⟩

/-! ### The number of files -/

theorem isAbsolute_parentPath? {c : CompilerConfig} {dir path : String}
    (hdir : Path.isAbsolute dir = true) (h : c.parentPath? dir = some path) :
    Path.isAbsolute path = true := by
  unfold CompilerConfig.parentPath? at h
  split at h
  · split at h
    · rename_i p _ hdot
      have hjoin : Path.isAbsolute (Path.join dir p) = true := by
        rw [Path.isAbsolute_join (Path.isAbsolute_of_dot hdot), hdir]
      rw [← Option.some.inj h]
      split
      · rw [Path.isAbsolute_withExtension _ (by decide) (by decide), hjoin]
      · exact hjoin
    · cases h
  · cases h

theorem parentPath?_plain {f : ConfigFile} {path : String}
    (h : (f.config.parentPath? f.dir.text).filter disk.isFile = some path) :
    (disk.locate path).Plain := by
  have hdir : Path.isAbsolute f.dir.text = true := by simp [Path.isAbsolute, Location.text]
  have habs := isAbsolute_parentPath? hdir (Option.filter_eq_some_iff.1 h).1
  exact Path.locate_plain fun hrel => by rw [habs] at hrel; cases hrel

theorem parent?_plain {f : ConfigFile} {parent : Location} (h : parent? disk f = some parent) :
    parent.Plain := by
  obtain ⟨path, hpath, rfl⟩ := Option.map_eq_some_iff.1 h
  exact parentPath?_plain hpath

theorem exists_content?_of_at? {c : CompilerConfig} (hplain : l.Plain)
    (h : CompilerConfig.at? disk l = some c) : ∃ content, disk.root.content? l = some content := by
  obtain ⟨text, htext, _⟩ := Option.bind_eq_some_iff.1 h
  rw [Disk.readAt_of_plain hplain] at htext
  obtain ⟨content, hcontent, _⟩ := Option.bind_eq_some_iff.1 htext
  exact ⟨content, hcontent⟩

theorem mem_files_of_at? {c : CompilerConfig} (hplain : l.Plain)
    (h : CompilerConfig.at? disk l = some c) : l ∈ disk.root.files fun _ => true := by
  obtain ⟨content, hcontent⟩ := exists_content?_of_at? hplain h
  exact Entry.mem_files_of_content? hcontent

theorem Chain.length_le (h : Chain disk l chain) : chain.length ≤ disk.fileCount + 1 := by
  have hfiles {l : Location} {chain : List ConfigFile} (h : Chain disk l chain) (hl : l.Plain) :
      ∀ l' ∈ chain.map (·.location), l' ∈ disk.root.files fun _ => true := by
    induction h with
    | last hat _ =>
      simpa using mem_files_of_at? hl hat
    | next hat hparent _ ih =>
      exact List.forall_mem_cons.2 ⟨mem_files_of_at? hl hat, ih (parent?_plain hparent)⟩
  have hnodup := h.nodup
  cases h with
  | last _ _ => simp
  | next hat hparent hrest =>
    have hsub := hfiles hrest (parent?_plain hparent)
    have hle := ((List.nodup_cons.1 hnodup).2.subperm hsub).length_le
    simpa [Disk.fileCount] using hle

theorem ancestor?_succ (l : Location) (n : Nat) :
    CompilerConfig.ancestor? disk l (n + 1) =
      (CompilerConfig.ancestor? disk l n).bind (CompilerConfig.next? disk) := by
  induction n generalizing l with
  | zero =>
    change (CompilerConfig.next? disk l).bind some = CompilerConfig.next? disk l
    cases CompilerConfig.next? disk l <;> rfl
  | succ n ih =>
    cases h : CompilerConfig.next? disk l with
    | none => simp [CompilerConfig.ancestor?, h]
    | some parent =>
      have hstep (m : Nat) : CompilerConfig.ancestor? disk l (m + 1) =
          CompilerConfig.ancestor? disk parent m := by
        rw [CompilerConfig.ancestor?, h]
        rfl
      rw [hstep, hstep, ih]

theorem ancestor?_plain {l' : Location} {n : Nat}
    (h : CompilerConfig.ancestor? disk l (n + 1) = some l') : l'.Plain := by
  rw [ancestor?_succ] at h
  obtain ⟨_, _, hnext⟩ := Option.bind_eq_some_iff.1 h
  obtain ⟨_, _, hparent⟩ := Option.bind_eq_some_iff.1 hnext
  exact parent?_plain hparent

/-- A way that never ends, and on which every configuration can be used, comes to a file again:
there are only so many files. -/
theorem exists_ancestor?_repeated
    (hendless : ∀ n, CompilerConfig.ancestor? disk l n ≠ none)
    (hat : ∀ m l', CompilerConfig.ancestor? disk l m = some l' →
      CompilerConfig.at? disk l' ≠ none) :
    ∃ i j l', i < j ∧ CompilerConfig.ancestor? disk l i = some l' ∧
      CompilerConfig.ancestor? disk l j = some l' := by
  apply Classical.byContradiction
  intro hno
  have hplace (n : Nat) : ∃ l', CompilerConfig.ancestor? disk l n = some l' :=
    Option.ne_none_iff_exists'.1 (hendless n)
  choose place hplace using hplace
  have hinj (i j : Nat) (heq : place i = place j) : i = j := by
    have hle {i j : Nat} (heq : place i = place j) : ¬i < j := fun hlt =>
      hno ⟨i, j, place i, hlt, hplace i, heq ▸ hplace j⟩
    have hij := hle heq
    have hji := hle heq.symm
    omega
  have hnodup : ((List.range (disk.fileCount + 1)).map fun n => place (n + 1)).Nodup :=
    List.nodup_range.map fun i j heq => Nat.succ.inj (hinj _ _ heq)
  have hsub : ((List.range (disk.fileCount + 1)).map fun n => place (n + 1)) ⊆
      disk.root.files fun _ => true := by
    intro l' hl'
    obtain ⟨n, _, rfl⟩ := List.mem_map.1 hl'
    obtain ⟨c, hc⟩ := Option.ne_none_iff_exists'.1 (hat _ _ (hplace (n + 1)))
    exact mem_files_of_at? (ancestor?_plain (hplace (n + 1))) hc
  have hle := (hnodup.subperm hsub).length_le
  rw [List.length_map, List.length_range] at hle
  exact Nat.not_succ_le_self disk.fileCount hle

end ConfigFile

namespace ImportMap

open ConfigFile

variable {disk : Disk} {path : String} {base base' : Except ConfigError ImportMap}

/-! ### Loading -/

theorem loadChain_eq_unusable {n : Nat} {visited : List Location}
    (hnew : disk.locate path ∉ visited) (h : CompilerConfig.at? disk (disk.locate path) = none) :
    loadChain disk base (n + 1) visited path = .error .unusable := by
  have hcontains : visited.contains (disk.locate path) = false := by simpa using hnew
  unfold CompilerConfig.at? at h
  simp only [loadChain, hcontains, h, Bool.false_eq_true, if_false]

theorem loadChain_eq_circular {n : Nat} {visited : List Location}
    (h : disk.locate path ∈ visited) :
    loadChain disk base (n + 1) visited path = .error (.circular path) := by
  have hcontains : visited.contains (disk.locate path) = true := by simpa using h
  simp only [loadChain, hcontains, if_true]

theorem loadChain_eq_extend {n : Nat} {visited : List Location} {c : CompilerConfig}
    (hnew : disk.locate path ∉ visited)
    (h : CompilerConfig.at? disk (disk.locate path) = some c) :
    loadChain disk base (n + 1) visited path =
      (match (c.parentPath? (ConfigFile.mk (disk.locate path) c).dir.text).filter disk.isFile with
      | some parent => loadChain disk base n (disk.locate path :: visited) parent
      | none => .ok {}).map (c.extend (ConfigFile.mk (disk.locate path) c).dir) := by
  have hcontains : visited.contains (disk.locate path) = false := by simpa using hnew
  unfold CompilerConfig.at? at h
  simp only [loadChain, hcontains, h, Bool.false_eq_true, if_false, ConfigFile.dir]
  cases c.parentPath? (Location.text (disk.locate path).dropLast) with
  | none => rfl
  | some parent =>
    by_cases hfile : disk.isFile parent = true
    · simp only [hfile, if_true, Option.filter_some]
      cases loadChain disk base n (disk.locate path :: visited) parent <;> rfl
    · simp only [hfile, Option.filter_some]
      rfl

theorem loadChain_succ_congr_steps {m n : Nat} {visited : List Location}
    (hrest : disk.locate path ∉ visited → CompilerConfig.at? disk (disk.locate path) ≠ none →
      ∀ parent, (disk.locate parent).Plain →
        loadChain disk base m (disk.locate path :: visited) parent =
          loadChain disk base' n (disk.locate path :: visited) parent) :
    loadChain disk base (m + 1) visited path = loadChain disk base' (n + 1) visited path := by
  by_cases hnew : disk.locate path ∈ visited
  · rw [loadChain_eq_circular hnew, loadChain_eq_circular hnew]
  · cases hat : CompilerConfig.at? disk (disk.locate path) with
    | none => rw [loadChain_eq_unusable hnew hat, loadChain_eq_unusable hnew hat]
    | some c =>
      rw [loadChain_eq_extend hnew hat, loadChain_eq_extend hnew hat]
      cases hparent : (c.parentPath? (ConfigFile.mk (disk.locate path) c).dir.text).filter
          disk.isFile with
      | none => rfl
      | some parent => simp only [hrest hnew (by simp [hat]) parent (parentPath?_plain hparent)]

def unread (disk : Disk) (visited : List Location) : List Location :=
  (disk.root.files fun _ => true).filter (· ∉ visited)

theorem unread_length_le (visited : List Location) :
    (unread disk visited).length ≤ disk.fileCount :=
  List.length_filter_le _ _

theorem unread_length_lt {l : Location} {visited : List Location}
    (hl : l ∈ disk.root.files fun _ => true) (hnew : l ∉ visited) :
    (unread disk (l :: visited)).length < (unread disk visited).length := by
  have hless : unread disk (l :: visited) = (unread disk visited).filter (· ≠ l) := by
    rw [unread, unread, List.filter_filter]
    refine List.filter_congr fun l' _ => ?_
    simp
  rw [hless, List.length_filter_lt_length_iff_exists]
  exact ⟨l, List.mem_filter.2 ⟨hl, by simpa using hnew⟩, by simp⟩

/-- Each step visits a file that was not visited before. So with more steps than such files, the
answer for no steps is never given. -/
theorem loadChain_congr_steps {m n : Nat} {visited : List Location}
    (hplain : (disk.locate path).Plain) (hm : (unread disk visited).length < m)
    (hn : (unread disk visited).length < n) :
    loadChain disk base m visited path = loadChain disk base' n visited path := by
  induction m generalizing n visited path with
  | zero => exact absurd hm (Nat.not_lt_zero _)
  | succ m ih =>
    cases n with
    | zero => exact absurd hn (Nat.not_lt_zero _)
    | succ n =>
      refine loadChain_succ_congr_steps fun hnew hat parent hparent => ?_
      obtain ⟨c, hc⟩ := Option.ne_none_iff_exists'.1 hat
      have hlt := unread_length_lt (mem_files_of_at? hplain hc) hnew
      exact ih hparent (by omega) (by omega)

theorem loadChain_eq_load {n : Nat} (hn : disk.fileCount + 1 < n) :
    loadChain disk base n [] path = load disk path := by
  cases n with
  | zero => exact absurd hn (Nat.not_lt_zero _)
  | succ n =>
    refine loadChain_succ_congr_steps fun _ _ parent hparent => ?_
    have hle : (unread disk [disk.locate path]).length ≤ disk.fileCount := unread_length_le _
    exact loadChain_congr_steps hparent (by omega) (by omega)

theorem exists_chain_of_loadChain {n : Nat} {visited : List Location} {m : ImportMap}
    {e : ConfigError} (h : loadChain disk (.error e) n visited path = .ok m) :
    ∃ chain, Chain disk (disk.locate path) chain ∧ m = inherit chain := by
  induction n generalizing visited path m with
  | zero => cases h
  | succ n ih =>
    by_cases hnew : disk.locate path ∈ visited
    · rw [loadChain_eq_circular hnew] at h
      cases h
    · cases hat : CompilerConfig.at? disk (disk.locate path) with
      | none =>
        rw [loadChain_eq_unusable hnew hat] at h
        cases h
      | some c =>
        rw [loadChain_eq_extend hnew hat] at h
        cases hparent : (c.parentPath? (ConfigFile.mk (disk.locate path) c).dir.text).filter
            disk.isFile with
        | none =>
          have hend : parent? disk ⟨disk.locate path, c⟩ = none := by rw [parent?, hparent]; rfl
          rw [hparent] at h
          cases h
          exact ⟨_, .last hat hend, rfl⟩
        | some parent =>
          have hnext : parent? disk ⟨disk.locate path, c⟩ = some (disk.locate parent) := by
            rw [parent?, hparent]
            rfl
          rw [hparent] at h
          cases hrest : loadChain disk (.error e) n (disk.locate path :: visited) parent with
          | error _ =>
            simp only [hrest] at h
            cases h
          | ok inherited =>
            simp only [hrest] at h
            cases h
            obtain ⟨farther, hfarther, rfl⟩ := ih hrest
            exact ⟨_, .next hat hnext hfarther, rfl⟩

theorem loadChain_of_chain {n : Nat} {visited : List Location} {chain : List ConfigFile}
    (h : Chain disk (disk.locate path) chain) (hn : chain.length ≤ n)
    (hnew : ∀ f ∈ chain, f.location ∉ visited) :
    loadChain disk base n visited path = .ok (inherit chain) := by
  induction n generalizing visited path chain with
  | zero => cases h <;> cases hn
  | succ n ih =>
    have hhere : disk.locate path ∉ visited := by cases h <;> exact hnew _ List.mem_cons_self
    have hnodup := h.nodup
    cases h with
    | @last _ c hat hend =>
      rw [loadChain_eq_extend hhere hat]
      rw [parent?, Option.map_eq_none_iff] at hend
      rw [hend]
      rfl
    | @next _ parent c farther hat hparent hrest =>
      obtain ⟨parentPath, hpath, rfl⟩ := Option.map_eq_some_iff.1 hparent
      have hfarther : loadChain disk base n (disk.locate path :: visited) parentPath =
          .ok (inherit farther) := by
        refine ih hrest (Nat.le_of_succ_le_succ hn) fun f hf hmem => ?_
        rcases List.mem_cons.1 hmem with heq | hmem
        · exact (List.nodup_cons.1 hnodup).1 (List.mem_map.2 ⟨f, hf, heq⟩)
        · exact hnew f (List.mem_cons_of_mem _ hf) hmem
      rw [loadChain_eq_extend hhere hat, hpath]
      simp only [hfarther]
      rfl

theorem load_eq_ok_iff {m : ImportMap} :
    load disk path = .ok m ↔
      ∃ chain, Chain disk (disk.locate path) chain ∧ m = inherit chain := by
  refine ⟨exists_chain_of_loadChain, ?_⟩
  rintro ⟨chain, hchain, rfl⟩
  exact loadChain_of_chain hchain (Nat.le_succ_of_le hchain.length_le) fun _ _ => List.not_mem_nil

/-- The ways to have no chain: a configuration that cannot be used, or one that comes up again. -/
theorem not_exists_chain_iff {l : Location} :
    (¬∃ chain, Chain disk l chain) ↔
      (∃ n l', CompilerConfig.ancestor? disk l n = some l' ∧ CompilerConfig.at? disk l' = none) ∨
      ∃ i j l', i < j ∧ CompilerConfig.ancestor? disk l i = some l' ∧
        CompilerConfig.ancestor? disk l j = some l' := by
  constructor
  · intro hno
    by_cases hunusable : ∃ n l', CompilerConfig.ancestor? disk l n = some l' ∧
        CompilerConfig.at? disk l' = none
    · exact .inl hunusable
    · have hat (n : Nat) (l' : Location) (hn : CompilerConfig.ancestor? disk l n = some l') :
          CompilerConfig.at? disk l' ≠ none := fun hnone => hunusable ⟨n, l', hn, hnone⟩
      refine .inr (exists_ancestor?_repeated (fun n hn => hno ?_) hat)
      exact exists_chain_of_ancestor?_eq_none hn hat
  · rintro hbad ⟨chain, hchain⟩
    have hplace (n : Nat) :
        CompilerConfig.ancestor? disk l n = (chain.map (·.location))[n]? := by
      rw [hchain.ancestor?, List.getElem?_map]
    rcases hbad with ⟨n, l', hn, hnone⟩ | ⟨i, j, l', hij, hi, hj⟩
    · rw [hplace] at hn
      obtain ⟨f, hf, rfl⟩ := List.mem_map.1 (List.mem_of_getElem? hn)
      rw [hchain.at? f hf] at hnone
      cases hnone
    · rw [hplace] at hi hj
      obtain ⟨hlt, _⟩ := List.getElem?_eq_some_iff.1 hi
      have heq : i = j := (List.getElem?_inj hlt hchain.nodup).1 (hi.trans hj.symm)
      omega

/-- Loading follows the configurations that extend one another and comes to an end: its steps are
never used up, as neither more steps nor another answer for no steps make a difference. It fails
exactly if one of the configurations cannot be used or comes up again. Otherwise the base directory
is that of the nearest configuration that sets one, a pattern has the targets of the nearest
configuration that lists it, joined to the base directory in force there, and the patterns stand as
they first appear from the farthest configuration on. -/
theorem load_inherits_nearest (disk : Disk) (path : String) :
    (∀ base n, disk.fileCount + 1 < n → loadChain disk base n [] path = load disk path) ∧
    ((∃ e, load disk path = .error e) ↔
      (∃ n l, CompilerConfig.ancestor? disk (disk.locate path) n = some l ∧
        CompilerConfig.at? disk l = none) ∨
      ∃ i j l, i < j ∧ CompilerConfig.ancestor? disk (disk.locate path) i = some l ∧
        CompilerConfig.ancestor? disk (disk.locate path) j = some l) ∧
    ∀ m, load disk path = .ok m → ∃ chain : List ConfigFile,
      (∀ n, (chain[n]?).map (·.location) =
        CompilerConfig.ancestor? disk (disk.locate path) n) ∧
      (∀ f ∈ chain, CompilerConfig.at? disk f.location = some f.config) ∧
      m.baseUrl = base? chain ∧
      (∀ nearer f farther pattern targets, chain = nearer ++ f :: farther →
        (∀ g ∈ nearer, pattern ∉ g.mappings.map (·.1)) →
        f.mappings.lookup pattern = some targets →
        m.paths.lookup pattern = some (targets.map (Path.join (anchor f farther)))) ∧
      m.paths.map (·.1) = (patterns chain).eraseDups := by
  refine ⟨fun base n hn => loadChain_eq_load hn, ?_, fun m hm => ?_⟩
  · rw [← not_exists_chain_iff]
    constructor
    · rintro ⟨e, he⟩ ⟨chain, hchain⟩
      rw [load_eq_ok_iff.2 ⟨chain, hchain, rfl⟩] at he
      cases he
    · intro hno
      cases hload : load disk path with
      | ok m =>
        obtain ⟨chain, hchain, _⟩ := load_eq_ok_iff.1 hload
        exact absurd ⟨chain, hchain⟩ hno
      | error e => exact ⟨e, rfl⟩
  · obtain ⟨chain, hchain, rfl⟩ := load_eq_ok_iff.1 hm
    refine ⟨chain, fun n => (hchain.ancestor? n).symm, hchain.at?, inherit_baseUrl chain, ?_,
      inherit_patterns chain⟩
    rintro nearer f farther pattern targets rfl hnearer hlookup
    exact inherit_lookup hchain.nodup_mappings hnearer hlookup

def twoConfigs : Disk :=
  ⟨["p"], .dir [("p", .dir [
    ("a.json", .file (String.toUTF8 ("\x7b\"extends\":\"./lib/b\",\"compilerOptions\":" ++
      "\x7b\"paths\":\x7b\"x\":[\"near\"]\x7d\x7d\x7d"))),
    ("lib", .dir [("b.json", .file (String.toUTF8 ("\x7b\"compilerOptions\":" ++
      "\x7b\"baseUrl\":\"s\",\"paths\":\x7b\"x\":[],\"y\":[\"far\"]\x7d\x7d\x7d")))])])]⟩

/-- The nearer entry of a pattern wins, and stands where the farther one stood. -/
theorem two_configs_inherited :
    ∃ (m : ImportMap) (chain : List ConfigFile),
      load twoConfigs "a.json" = .ok m ∧
      (chain[1]?).map (·.location) = some ["p", "lib", "b.json"] ∧ m.baseUrl = base? chain ∧
      m.paths = [("x", ["/p/lib/s/near"]), ("y", ["/p/lib/s/far"])] := by
  have hload : (load twoConfigs "a.json").toOption.map (·.paths) =
      some [("x", ["/p/lib/s/near"]), ("y", ["/p/lib/s/far"])] := by
    decide +kernel
  have hfarther : CompilerConfig.ancestor? twoConfigs (twoConfigs.locate "a.json") 1 =
      some ["p", "lib", "b.json"] := by
    decide +kernel
  cases hm : load twoConfigs "a.json" with
  | error e =>
    rw [hm] at hload
    cases hload
  | ok m =>
    rw [hm] at hload
    obtain ⟨chain, hplaces, _, hbase, _⟩ := (load_inherits_nearest twoConfigs "a.json").2.2 m hm
    exact ⟨m, chain, rfl, (hplaces 1).trans hfarther, hbase, Option.some.inj hload⟩

end ImportMap

end RouteAtlas
