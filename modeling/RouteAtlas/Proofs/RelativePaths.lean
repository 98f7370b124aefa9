import RouteAtlas.Project.Basic

set_option autoImplicit false

namespace RouteAtlas

def Path.IsName (name : String) : Prop := name ≠ "" ∧ '/' ∉ name.toList

instance (name : String) : Decidable (Path.IsName name) := inferInstanceAs (Decidable (_ ∧ _))

def Location.Named (l : Location) : Prop := ∀ name ∈ l, Path.IsName name

instance (l : Location) : Decidable l.Named := inferInstanceAs (Decidable (∀ name ∈ l, _))

namespace Path

theorem isName_of_mem_names {path name : String} (h : name ∈ names path) : IsName name := by
  obtain ⟨c, hc, rfl⟩ := List.mem_map.1 h
  obtain ⟨hc, hne⟩ := List.mem_filter.1 hc
  have hslash : '/' ∉ c := Text.not_mem_of_mem_split hc
  simp only [ne_eq, Bool.and_eq_true, decide_eq_true_eq] at hne
  refine ⟨fun hempty => hne.1 ?_, by rwa [String.toList_ofList]⟩
  simpa using congrArg String.toList hempty

theorem enter_named {l : Location} {name : String} (hl : l.Named) (hname : IsName name) :
    (enter l name).Named := by
  unfold enter
  split
  · exact fun n hn => hl n (List.dropLast_subset _ hn)
  · intro n hn
    rcases List.mem_append.1 hn with hn | hn
    · exact hl n hn
    · cases List.mem_singleton.1 hn
      exact hname

theorem foldl_enter_named {l : Location} {ns : List String} (hl : l.Named)
    (hns : ∀ name ∈ ns, IsName name) : (ns.foldl enter l).Named := by
  induction ns generalizing l with
  | nil => exact hl
  | cons name rest ih =>
    exact ih (enter_named hl (hns name (by simp))) fun n hn => hns n (by simp [hn])

theorem locate_named {cwd : Location} (hcwd : cwd.Named) (path : String) :
    (locate cwd path).Named := by
  apply foldl_enter_named
  · split
    · exact fun _ h => absurd h List.not_mem_nil
    · exact hcwd
  · exact fun _ h => isName_of_mem_names h

end Path

namespace Entry

inductive Named : Entry → Prop
  | file (content : ByteArray) : Named (.file content)
  | dir {entries : List (String × Entry)} (names : ∀ p ∈ entries, Path.IsName p.1)
      (below : ∀ p ∈ entries, Named p.2) : Named (.dir entries)

theorem named_dir_iff {entries : List (String × Entry)} :
    (dir entries).Named ↔ ∀ p ∈ entries, Path.IsName p.1 ∧ p.2.Named := by
  constructor
  · rintro ⟨⟩ p hp
    rename_i names below
    exact ⟨names p hp, below p hp⟩
  · intro h
    exact .dir (fun p hp => (h p hp).1) fun p hp => (h p hp).2

def filesOf (enter : String → Bool) (name : String) (e : Entry) : List Location :=
  if e.isFile || enter name then (e.files enter).map (name :: ·) else []

theorem filesIn_eq (enter : String → Bool) (entries : List (String × Entry)) :
    filesIn enter entries = entries.flatMap fun p => filesOf enter p.1 p.2 := by
  induction entries with
  | nil => rfl
  | cons first rest ih =>
    obtain ⟨name, e⟩ := first
    rw [filesIn, ih, List.flatMap_cons, filesOf]

theorem mem_filesOf_iff {enter : String → Bool} {name : String} {e : Entry} {l : Location} :
    l ∈ filesOf enter name e ↔
      (e.isFile || enter name) = true ∧ ∃ below ∈ e.files enter, l = name :: below := by
  unfold filesOf
  split
  · rename_i h
    simp only [h, true_and, List.mem_map, eq_comm]
  · rename_i h
    exact ⟨fun hmem => absurd hmem List.not_mem_nil, fun hmem => absurd hmem.1 h⟩

theorem Named.files {e : Entry} (h : e.Named) {enter : String → Bool} :
    ∀ l ∈ e.files enter, l.Named := by
  induction h with
  | file content =>
    intro l hl
    cases List.mem_singleton.1 hl
    exact fun _ h => absurd h List.not_mem_nil
  | dir names _ ih =>
    intro l hl
    rw [Entry.files, filesIn_eq, List.mem_flatMap] at hl
    obtain ⟨p, hp, hl⟩ := hl
    obtain ⟨_, below, hbelow, rfl⟩ := mem_filesOf_iff.1 hl
    exact List.forall_mem_cons.2 ⟨names p hp, ih p hp below hbelow⟩

theorem Named.child? {e c : Entry} (h : e.Named) {name : String} (hc : e.child? name = some c) :
    c.Named := by
  cases h with
  | file content => cases hc
  | dir _ below =>
    obtain ⟨p, hfind, rfl⟩ := Option.map_eq_some_iff.1 hc
    exact below p (List.mem_of_find?_eq_some hfind)

end Entry

namespace Disk

structure Named (d : Disk) : Prop where
  cwd : d.cwd.Named
  root : d.root.Named

variable {d : Disk}

theorem Named.locate (h : d.Named) (path : String) : (d.locate path).Named :=
  Path.locate_named h.cwd path

theorem entry?_induction {P : Entry → Prop} (hroot : P d.root)
    (hchild : ∀ e c name, P e → Entry.child? name e = some c → P c) {l : Location} {e : Entry}
    (he : d.entry? l = some e) : P e := by
  have hfold : ∀ (l : Location) (start : Option Entry), (∀ e ∈ start, P e) →
      ∀ e ∈ l.foldl (fun e name => e.bind (Entry.child? name)) start, P e := by
    intro l
    induction l with
    | nil => exact fun start hstart => hstart
    | cons name rest ih =>
      intro start hstart
      refine ih _ fun c hc => ?_
      obtain ⟨e, he, hc⟩ := Option.bind_eq_some_iff.1 hc
      exact hchild e c name (hstart e he) hc
  refine hfold l (some d.root) ?_ e he
  rintro _ ⟨⟩
  exact hroot

theorem Named.entry? (h : d.Named) {l : Location} {e : Entry} (he : d.entry? l = some e) :
    e.Named :=
  entry?_induction h.root (fun _ _ _ h hc => h.child? hc) he

theorem Named.filesBelow (h : d.Named) {l : Location} (hl : l.Named) (enter : String → Bool) :
    ∀ found ∈ d.filesBelow enter l, found.Named := by
  unfold Disk.filesBelow
  split
  · rename_i e he
    intro found hfound
    obtain ⟨below, hbelow, rfl⟩ := List.mem_map.1 hfound
    have hbelow : Location.Named below := (h.entry? he).files below hbelow
    intro name hname
    exact (List.mem_append.1 hname).elim (hl name) (hbelow name)
  · exact fun _ h => absurd h List.not_mem_nil

end Disk

namespace Location

def joined (l : Location) : List Char := Text.join '/' (l.map String.toList)

/-- The names come back from the joined text: they are its pieces, and no piece is empty. -/
theorem joined_inj {l l' : Location} (hl : l.Named) (hl' : l'.Named) (h : l.joined = l'.joined) :
    l = l' := by
  have hpieces : ∀ {l : Location}, l.Named →
      (Text.split '/' l.joined).filter (fun p => !p.isEmpty) = l.map String.toList := by
    intro l hl
    cases l with
    | nil => rfl
    | cons name rest =>
      have hslash : ∀ p ∈ (name :: rest).map String.toList, '/' ∉ p := by
        intro p hp
        obtain ⟨n, hn, rfl⟩ := List.mem_map.1 hp
        exact (hl n hn).2
      rw [joined, Text.split_join (by simp) hslash, List.filter_eq_self]
      intro p hp
      obtain ⟨n, hn, rfl⟩ := List.mem_map.1 hp
      simpa using (hl n hn).1
  have htexts : l.map String.toList = l'.map String.toList := by
    rw [← hpieces hl, h, hpieces hl']
  exact (List.map_inj_right fun _ _ => String.toList_inj.1).1 htexts

theorem joined_head? {l : Location} (hl : l.Named) : l.joined.head? ≠ some '/' := by
  cases l with
  | nil => simp [joined, Text.join]
  | cons name rest =>
    obtain ⟨hne, hslash⟩ := hl name (by simp)
    cases hname : name.toList with
    | nil => exact absurd (String.toList_eq_nil_iff.1 hname) hne
    | cons c cs =>
      have hc : c ≠ '/' := fun hc => hslash (by simp [hname, hc])
      cases rest <;> simpa [joined, Text.join, hname] using hc

end Location

namespace Project

theorem sources_named {disk : Disk} (h : disk.Named) {root : Location} (hroot : root.Named) :
    ∀ l ∈ sources disk root, l.Named := by
  intro l hl
  have hl := (List.mem_filter.1 (List.mem_mergeSort.1 hl)).1
  exact h.filesBelow hroot _ l hl

/-- A path below the root never begins with a slash, and a path elsewhere begins with two. -/
theorem relPath_toList (root l : Location) :
    (∃ below, l = root ++ below ∧ (relPath root l).toList = Location.joined below) ∨
      (relPath root l).toList = '/' :: '/' :: l.joined := by
  unfold relPath
  split
  · rename_i h
    obtain ⟨below, rfl⟩ := List.isPrefixOf_iff_prefix.1 h
    exact .inl ⟨below, rfl, by simp [Location.joined]⟩
  · exact .inr (by simp [Location.text, Location.joined])

theorem relPath_inj {root l l' : Location} (hl : l.Named) (hl' : l'.Named)
    (h : relPath root l = relPath root l') : l = l' := by
  have named_below {below : Location} (h : (root ++ below).Named) : below.Named :=
    fun n hn => h n (List.mem_append_right _ hn)
  have htext := congrArg String.toList h
  rcases relPath_toList root l with ⟨below, rfl, hrel⟩ | hrel <;>
    rcases relPath_toList root l' with ⟨below', rfl, hrel'⟩ | hrel' <;>
    rw [hrel, hrel'] at htext
  · rw [Location.joined_inj (named_below hl) (named_below hl') htext]
  · exact absurd (by rw [htext]; rfl) (Location.joined_head? (named_below hl))
  · exact absurd (by rw [← htext]; rfl) (Location.joined_head? (named_below hl'))
  · exact Location.joined_inj hl hl' (by simpa using htext)

end Project

end RouteAtlas
