import Mathlib.Data.List.Nodup
import RouteAtlas.Proofs.ListingOrder

set_option autoImplicit false

namespace RouteAtlas

namespace Entry

theorem isSome_content?_cons {e : Entry} {name : String} {rest : Location} :
    (e.content? (name :: rest)).isSome = true ↔
      ∃ c, e.child? name = some c ∧ (c.content? rest).isSome = true := by
  rw [content?]
  cases e.child? name <;> simp

theorem Proper.plain_of_content?_isSome {e : Entry} (h : e.Proper) {l : Location}
    (hl : (e.content? l).isSome = true) : l.Plain := by
  induction l generalizing e with
  | nil => exact fun _ hmem => absurd hmem List.not_mem_nil
  | cons name rest ih =>
    obtain ⟨below, hchild, hbelow⟩ := isSome_content?_cons.1 hl
    cases h with
    | file content => cases hchild
    | dir distinct names proper =>
      have hmem := (child?_eq_some_iff distinct).1 hchild
      exact List.forall_mem_cons.2 ⟨names _ hmem, ih (proper _ hmem) hbelow⟩

theorem enters_iff {enter : String → Bool} {name : String} {e : Entry} {rest : Location}
    (h : rest ∈ e.files enter ↔
      (e.content? rest).isSome = true ∧ ∀ dir ∈ rest.dropLast, enter dir = true) :
    (e.isFile || enter name) = true ∧ rest ∈ e.files enter ↔
      (e.content? rest).isSome = true ∧ ∀ dir ∈ (name :: rest).dropLast, enter dir = true := by
  rw [h]
  cases rest with
  | nil =>
    rw [isSome_content?_nil]
    cases e.isFile <;> simp
  | cons m rest =>
    rw [List.dropLast_cons_cons, List.forall_mem_cons]
    cases e with
    | file content => simp [content?, child?]
    | dir entries => simp only [isFile, Bool.false_or, and_left_comm]

/-- A walk finds the files to which there is a way through directories that it enters. -/
theorem Proper.mem_files_iff {e : Entry} (h : e.Proper) (enter : String → Bool) {l : Location} :
    l ∈ e.files enter ↔
      (e.content? l).isSome = true ∧ ∀ dir ∈ l.dropLast, enter dir = true := by
  induction h generalizing l with
  | file content => cases l <;> simp [files, content?, Entry.child?]
  | @dir entries distinct names proper ih =>
    rw [files, filesIn_eq, List.mem_flatMap]
    simp only [mem_filesOf_iff]
    cases l with
    | nil =>
      constructor
      · rintro ⟨p, _, _, below, _, hnil⟩
        cases hnil
      · rintro ⟨hcontent, _⟩
        cases hcontent
    | cons name rest =>
      rw [isSome_content?_cons]
      constructor
      · rintro ⟨⟨n, c⟩, hc, henter, below, hbelow, heq⟩
        obtain ⟨rfl, rfl⟩ := List.cons.inj heq
        obtain ⟨hsome, hdirs⟩ := (enters_iff (ih _ hc)).1 ⟨henter, hbelow⟩
        exact ⟨⟨c, (child?_eq_some_iff distinct).2 hc, hsome⟩, hdirs⟩
      · rintro ⟨⟨c, hchild, hsome⟩, hdirs⟩
        have hc : (name, c) ∈ entries := (child?_eq_some_iff distinct).1 hchild
        obtain ⟨henter, hbelow⟩ := (enters_iff (ih _ hc)).2 ⟨hsome, hdirs⟩
        exact ⟨(name, c), hc, henter, rest, hbelow, rfl⟩

theorem Proper.files_nodup {e : Entry} (h : e.Proper) (enter : String → Bool) :
    (e.files enter).Nodup := by
  induction h with
  | file content => exact List.nodup_singleton _
  | @dir entries distinct names proper ih =>
    rw [files, filesIn_eq, List.nodup_flatMap]
    constructor
    · intro p hp
      unfold filesOf
      split
      · exact (ih p hp).map fun _ _ heq => (List.cons.inj heq).2
      · exact List.nodup_nil
    · -- what is found in two entries begins with two names
      refine (List.pairwise_map.1 distinct).imp fun {p q} hne l hp hq => ?_
      obtain ⟨_, below, _, rfl⟩ := mem_filesOf_iff.1 hp
      obtain ⟨_, below', _, heq⟩ := mem_filesOf_iff.1 hq
      exact hne (List.cons.inj heq).1

end Entry

namespace Disk

variable {d : Disk}

theorem Proper.entry? (h : d.Proper) {l : Location} {e : Entry} (he : d.entry? l = some e) :
    e.Proper :=
  entry?_induction h.root (fun _ _ _ h hc => h.child? hc) he

inductive Trail (d : Disk) : Location → List Entry → Prop
  | root : Trail d [] [d.root]
  | down {l : Location} {here e : Entry} {above : List Entry} {name : String}
      (h : Trail d l (here :: above)) (hchild : here.child? name = some e) :
      Trail d (l ++ [name]) (e :: here :: above)

theorem Trail.entry?_eq {l : Location} {es : List Entry} (h : Trail d l es) :
    d.entry? l = es.head? := by
  induction h with
  | root => rfl
  | @down l here e above name _ hchild ih =>
    have hbind : d.entry? (l ++ [name]) = Option.bind (d.entry? l) (Entry.child? name) :=
      List.foldl_concat ..
    rw [hbind, ih]
    exact hchild

def follows (l : Location) (part : List Char) : Location :=
  if part ≠ [] && part ≠ ['.'] then Path.enter l (String.ofList part) else l

theorem Trail.step {l : Location} {es es' : List Entry} (h : Trail d l es) {part : List Char}
    (hstep : step es part = .ok es') : Trail d (follows l part) es' := by
  cases es with
  | nil => cases hstep
  | cons here above =>
    cases here with
    | file content => cases hstep
    | dir entries =>
      simp only [Disk.step] at hstep
      split at hstep
      · rename_i hstay
        obtain rfl := Except.ok.inj hstep
        have hsame : follows l part = l := by
          rcases Bool.or_eq_true _ _ |>.mp hstay with hnil | hdot
          · simp [follows, of_decide_eq_true hnil]
          · simp [follows, of_decide_eq_true hdot]
        rwa [hsame]
      · rename_i hname
        have hfollows : follows l part = Path.enter l (String.ofList part) := by
          simp only [Bool.or_eq_true, decide_eq_true_eq, not_or] at hname
          simp [follows, hname]
        rw [hfollows]
        split at hstep
        · rename_i hup
          obtain rfl := Except.ok.inj hstep
          rw [hup]
          change Trail d l.dropLast _
          generalize Entry.dir entries = here at h ⊢
          cases h with
          | root => exact .root
          | down h _ => rwa [List.dropLast_concat]
        · rename_i hup
          have hdown : Path.enter l (String.ofList part) = l ++ [String.ofList part] := by
            refine if_neg fun heq => hup ?_
            simpa using congrArg String.toList heq
          rw [hdown]
          split at hstep
          · rename_i e hchild
            obtain rfl := Except.ok.inj hstep
            exact h.down hchild
          · cases hstep

theorem Trail.foldlM {α : Type} (f : α → List Char) {parts : List α} {l : Location}
    {es es' : List Entry} (h : Trail d l es)
    (hfold : parts.foldlM (fun es part => Disk.step es (f part)) es = .ok es') :
    Trail d (parts.foldl (fun l part => follows l (f part)) l) es' := by
  induction parts generalizing l es with
  | nil =>
    obtain rfl := Except.ok.inj hfold
    exact h
  | cons part rest ih =>
    rw [List.foldlM_cons] at hfold
    cases hstep : Disk.step es (f part) with
    | error reason => rw [hstep] at hfold; cases hfold
    | ok mid =>
      rw [hstep] at hfold
      exact ih (h.step hstep) hfold

theorem foldl_follows_names (path : String) (l : Location) :
    (Text.split '/' path.toList).foldl follows l = (Path.names path).foldl Path.enter l := by
  rw [Path.names, List.foldl_map, List.foldl_filter]
  rfl

theorem foldl_follows_plain {cwd : Location} (h : cwd.Plain) (l : Location) :
    cwd.foldl (fun l name => follows l name.toList) l = l ++ cwd := by
  induction cwd generalizing l with
  | nil => simp
  | cons name rest ih =>
    obtain ⟨hname, hrest⟩ := List.forall_mem_cons.1 h
    have hfollows : follows l name.toList = l ++ [name] := by
      have hne : name.toList ≠ [] := fun hnil => hname.1.1 (String.toList_eq_nil_iff.1 hnil)
      have hdot : name.toList ≠ ['.'] := fun heq => hname.2.1 (String.toList_inj.1 heq)
      simp only [follows, hne, hdot, ne_eq, not_false_eq_true, decide_true, Bool.and_self, if_true,
        String.ofList_toList]
      exact Path.enter_of_isPlain hname
    rw [List.foldl_cons, hfollows, ih hrest, List.append_assoc]
    rfl

theorem foldl_follows_absolute {path : String} (h : Path.isAbsolute path = true) (l : Location) :
    (Text.split '/' (path.toList.drop 1)).foldl follows l =
      (Text.split '/' path.toList).foldl follows l := by
  cases hpath : path.toList with
  | nil => rfl
  | cons c rest =>
    obtain rfl : c = '/' := by simpa [Path.isAbsolute, hpath] using h
    have hsplit := Text.split_append_sep '/' [] rest
    rw [List.nil_append] at hsplit
    rw [hsplit]
    rfl

theorem entry?_of_follow (hcwd : d.cwd.Plain) {path : String} {e : Entry}
    (h : d.follow path = .ok e) : d.entry? (d.locate path) = some e := by
  have hreached {l : Location} {base : List Entry} {parts : List (List Char)}
      (htrail : Trail d l base) (hfold : parts.foldlM step base >>= reached = .ok e) :
      d.entry? (parts.foldl follows l) = some e := by
    cases hes : parts.foldlM step base with
    | error reason => rw [hes] at hfold; cases hfold
    | ok es =>
      rw [hes] at hfold
      have hend : Trail d (parts.foldl follows l) es := htrail.foldlM id hes
      rw [hend.entry?_eq]
      cases es with
      | nil => cases hfold
      | cons last above =>
        obtain rfl := Except.ok.inj hfold
        rfl
  by_cases hempty : path.isEmpty = true
  · rw [follow, if_pos hempty] at h
    cases h
  · rw [follow_eq hempty] at h
    rw [locate, Path.locate, ← foldl_follows_names]
    split at h
    · rename_i habs
      rw [if_pos habs, ← foldl_follows_absolute habs]
      exact hreached .root h
    · rename_i hrel
      rw [if_neg hrel]
      cases hbase : d.descend d.cwd with
      | error reason => rw [hbase] at h; cases h
      | ok base =>
        rw [hbase] at h
        have htrail := Trail.root.foldlM String.toList hbase
        rw [foldl_follows_plain hcwd, List.nil_append] at htrail
        exact hreached htrail h

end Disk

end RouteAtlas
