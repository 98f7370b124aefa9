import RouteAtlas.Proofs.PathLocations

set_option autoImplicit false

namespace RouteAtlas

namespace Entry

def content? : Location → Entry → Option ByteArray
  | [], .file content => some content
  | [], .dir _ => none
  | name :: rest, e => (e.child? name).bind (content? rest)

theorem isSome_content?_nil (e : Entry) : (e.content? []).isSome = e.isFile := by cases e <;> rfl

theorem content?_append (e : Entry) (l below : Location) :
    e.content? (l ++ below) =
      (l.foldl (fun e name => e.bind (child? name)) (some e)).bind (content? below) := by
  have hfold : ∀ start : Option Entry, start.bind (content? (l ++ below)) =
      (l.foldl (fun e name => e.bind (child? name)) start).bind (content? below) := by
    induction l with
    | nil => exact fun _ => rfl
    | cons name rest ih =>
      intro start
      rw [List.foldl_cons, ← ih, Option.bind_assoc]
      rfl
  exact hfold (some e)

/-- A file can be written at a location: all that there is on the way are directories, and at the
location itself there is nothing or a file. -/
def admitsFile : Location → Entry → Bool
  | [], e => e.isFile
  | _ :: _, .file _ => false
  | name :: rest, .dir entries =>
    match (dir entries).child? name with
    | some e => admitsFile rest e
    | none => true

theorem child?_setChild (name n : String) (e : Entry) (entries : List (String × Entry)) :
    (dir (setChild name e entries)).child? n =
      if n = name then some e else (dir entries).child? n := by
  induction entries with
  | nil =>
    by_cases hn : n = name
    · simp [child?, setChild, hn]
    · simp [child?, setChild, hn, Ne.symm hn]
  | cons first rest ih =>
    obtain ⟨m, f⟩ := first
    simp only [child?] at ih ⊢
    by_cases hm : m = name
    · subst hm
      by_cases hn : n = m
      · simp [setChild, hn]
      · simp [setChild, hn, Ne.symm hn]
    · by_cases hn : m = n
      · subst hn
        simp [setChild, hm]
      · have hbeq : (m == n) = false := by simpa using hn
        simp only [setChild, hm, if_false, List.find?_cons, hbeq, ih]

theorem content?_put_empty (content : ByteArray) (l l' : Location) :
    (put (.file content) l (.dir [])).content? l' = if l' = l then some content else none := by
  induction l generalizing l' with
  | nil => cases l' <;> simp [put, content?, child?]
  | cons name rest ih =>
    cases l' with
    | nil => simp [put, content?]
    | cons n r =>
      by_cases hn : n = name
      · subst hn
        simp [put, content?, child?, setChild, ih]
      · simp [put, content?, child?, setChild, hn, Ne.symm hn]

theorem content?_put {e : Entry} {l : Location} (h : e.admitsFile l) (content : ByteArray)
    (l' : Location) :
    (put (.file content) l e).content? l' = if l' = l then some content else e.content? l' := by
  induction l generalizing e l' with
  | nil =>
    cases e with
    | dir entries => cases h
    | file old => cases l' <;> simp [put, content?, child?]
  | cons name rest ih =>
    cases e with
    | file old => cases h
    | dir entries =>
      cases l' with
      | nil => simp [put, content?]
      | cons n r =>
        by_cases hn : n = name
        · subst hn
          simp only [put, content?, child?_setChild, if_true, Option.bind_some, List.cons.injEq,
            true_and]
          cases hchild : (dir entries).child? n with
          | none =>
            have hbelow : (entries.find? (·.1 == n)).map (·.2) = none := hchild
            rw [hbelow, Option.getD_none, content?_put_empty]
            rfl
          | some below =>
            have hbelow : (entries.find? (·.1 == n)).map (·.2) = some below := hchild
            have hadmits : below.admitsFile rest := by simpa [admitsFile, hchild] using h
            rw [hbelow, Option.getD_some, ih hadmits]
            rfl
        · have hne : n :: r ≠ name :: rest := fun heq => hn (List.cons.inj heq).1
          simp only [put, content?, child?_setChild, hn, hne, if_false]

theorem mem_files_of_content? {e : Entry} {l : Location} {content : ByteArray}
    (h : e.content? l = some content) : l ∈ e.files fun _ => true := by
  induction l generalizing e with
  | nil =>
    cases e with
    | dir entries => cases h
    | file old => exact List.mem_singleton_self _
  | cons name rest ih =>
    obtain ⟨below, hchild, hbelow⟩ := Option.bind_eq_some_iff.1 h
    cases e with
    | file old => cases hchild
    | dir entries =>
      obtain ⟨p, hp, rfl⟩ := Option.map_eq_some_iff.1 hchild
      obtain rfl : p.1 = name := by simpa using List.find?_some hp
      rw [files, filesIn_eq, List.mem_flatMap]
      exact ⟨p, List.mem_of_find?_eq_some hp,
        mem_filesOf_iff.2 ⟨Bool.or_true _, rest, ih hbelow, rfl⟩⟩

/-! ### The shape of a disk -/

mutual
def outline : Entry → Entry
  | .file _ => .file .empty
  | .dir entries => .dir (outlineIn entries)

def outlineIn : List (String × Entry) → List (String × Entry)
  | [] => []
  | (name, e) :: rest => (name, outline e) :: outlineIn rest
end

theorem isFile_outline (e : Entry) : e.outline.isFile = e.isFile := by cases e <;> rfl

theorem child?_outline (e : Entry) (name : String) :
    e.outline.child? name = (e.child? name).map outline := by
  cases e with
  | file content => rfl
  | dir entries =>
    change ((outlineIn entries).find? _).map _ = ((entries.find? _).map _).map outline
    induction entries with
    | nil => rfl
    | cons first rest ih =>
      obtain ⟨n, e⟩ := first
      by_cases hn : n = name
      · simp [outlineIn, hn]
      · simpa [outlineIn, hn] using ih

mutual
theorem files_outline (enter : String → Bool) : ∀ e : Entry, e.outline.files enter = e.files enter
  | .file _ => rfl
  | .dir entries => filesIn_outlineIn enter entries

theorem filesIn_outlineIn (enter : String → Bool) : ∀ entries : List (String × Entry),
    filesIn enter (outlineIn entries) = filesIn enter entries
  | [] => rfl
  | (name, e) :: rest => by
    rw [outlineIn, filesIn, filesIn, files_outline enter e, isFile_outline,
      filesIn_outlineIn enter rest]
end

theorem outlineIn_setChild {name : String} {e e' : Entry} {entries : List (String × Entry)}
    (h : (dir entries).child? name = some e) (hsame : e'.outline = e.outline) :
    outlineIn (setChild name e' entries) = outlineIn entries := by
  induction entries with
  | nil => cases h
  | cons first rest ih =>
    obtain ⟨n, f⟩ := first
    by_cases hn : n = name
    · obtain rfl : f = e := by simpa [child?, hn] using h
      simp [setChild, outlineIn, hn, hsame]
    · have hrest : (dir rest).child? name = some e := by simpa [child?, hn] using h
      simp [setChild, outlineIn, hn, ih hrest]

/-- A file that replaces a file leaves the shape as it is. -/
theorem outline_put {e : Entry} {l : Location} {old : ByteArray} (h : e.content? l = some old)
    (content : ByteArray) : (put (.file content) l e).outline = e.outline := by
  induction l generalizing e with
  | nil =>
    cases e with
    | dir entries => cases h
    | file old => rfl
  | cons name rest ih =>
    obtain ⟨below, hchild, hbelow⟩ := Option.bind_eq_some_iff.1 h
    cases e with
    | file old => cases hchild
    | dir entries =>
      have hfound : (entries.find? (·.1 == name)).map (·.2) = some below := hchild
      simp only [put, outline, hfound, Option.getD_some]
      rw [outlineIn_setChild hchild (ih hbelow)]

theorem admitsFile_of_content? {e : Entry} {l : Location} {old : ByteArray}
    (h : e.content? l = some old) : e.admitsFile l := by
  induction l generalizing e with
  | nil =>
    cases e with
    | dir entries => cases h
    | file old => rfl
  | cons name rest ih =>
    obtain ⟨below, hchild, hbelow⟩ := Option.bind_eq_some_iff.1 h
    cases e with
    | file old => cases hchild
    | dir entries => simpa [admitsFile, hchild] using ih hbelow

end Entry

namespace Disk

theorem hasFile_eq (d : Disk) (l : Location) : d.hasFile l = (d.root.content? l).isSome := by
  have happend := Entry.content?_append d.root l []
  rw [List.append_nil] at happend
  rw [happend, hasFile]
  change _ = (Option.bind (d.entry? l) (Entry.content? [])).isSome
  cases d.entry? l with
  | none => rfl
  | some e => exact (Entry.isSome_content?_nil e).symm

theorem hasFile_put {d : Disk} {l : Location} (h : d.root.admitsFile l) (content : ByteArray)
    (l' : Location) :
    (d.put l (.file content)).hasFile l' = (decide (l' = l) || d.hasFile l') := by
  rw [hasFile_eq, hasFile_eq]
  change ((Entry.put (.file content) l d.root).content? l').isSome = _
  rw [Entry.content?_put h]
  by_cases hl : l' = l <;> simp [hl]

def text? (d : Disk) (l : Location) : Option String :=
  (d.root.content? l).bind String.fromUTF8?

theorem step_of_isPlain {name : String} (h : Path.IsPlain name) (e : Entry) (above : List Entry) :
    (step (e :: above) name.toList).toOption = (e.child? name).map (· :: e :: above) := by
  obtain ⟨⟨hne, _⟩, hdot, hup⟩ := h
  have hne : name.toList ≠ [] := fun heq => hne (String.toList_eq_nil_iff.1 heq)
  have hdot : name.toList ≠ ['.'] := fun heq => hdot (String.toList_inj.1 heq)
  have hup : name.toList ≠ ['.', '.'] := fun heq => hup (String.toList_inj.1 heq)
  cases e with
  | file content => rfl
  | dir entries =>
    simp only [step, hne, hdot, hup, decide_false, Bool.or_self, Bool.false_eq_true, if_false,
      String.ofList_toList]
    cases (Entry.dir entries).child? name <;> rfl

def reached : List Entry → Except ReadError Entry
  | e :: _ => .ok e
  | [] => .error .notFound

theorem readAt_eq (d : Disk) (l : Location) :
    d.readAt l = d.descend l >>= fun es => reached es >>= textOf := by
  unfold readAt
  cases d.descend l with
  | error reason => rfl
  | ok es => cases es <;> rfl

theorem follow_eq {d : Disk} {path : String} (h : ¬path.isEmpty = true) :
    d.follow path = (if Path.isAbsolute path then .ok [d.root] else d.descend d.cwd) >>= fun base =>
      (Text.split '/' (if Path.isAbsolute path then path.toList.drop 1 else path.toList)).foldlM
        step base >>= reached := by
  rw [follow, if_neg h]
  split
  · rfl
  · rfl

theorem readAt_of_plain {d : Disk} {l : Location} (hl : l.Plain) :
    (d.readAt l).toOption = d.text? l := by
  have hfold : ∀ (l : Location), l.Plain → ∀ (e : Entry) (above : List Entry),
      (l.foldlM (fun es name => step es name.toList) (e :: above) >>= fun es =>
        reached es >>= textOf).toOption = (e.content? l).bind String.fromUTF8? := by
    intro l
    induction l with
    | nil =>
      intro _ e above
      cases e with
      | dir entries => rfl
      | file content =>
        change (textOf (.file content)).toOption = String.fromUTF8? content
        cases h : String.fromUTF8? content <;> simp [textOf, h, Except.toOption]
    | cons name rest ih =>
      intro hl e above
      have hstep := step_of_isPlain (hl name List.mem_cons_self) e above
      rw [List.foldlM_cons, Entry.content?]
      cases hname : step (e :: above) name.toList with
      | error reason =>
        rw [hname] at hstep
        have hnone : e.child? name = none := by simpa [Except.toOption] using hstep.symm
        rw [hnone]
        rfl
      | ok es =>
        rw [hname] at hstep
        obtain ⟨below, hchild, rfl⟩ := Option.map_eq_some_iff.1 hstep.symm
        rw [hchild]
        exact ih (fun n hn => hl n (List.mem_cons_of_mem _ hn)) below (e :: above)
  rw [readAt_eq]
  exact hfold l hl d.root []

theorem text?_put {d : Disk} {l : Location} (h : d.root.admitsFile l) (content : ByteArray)
    (l' : Location) :
    (d.put l (.file content)).text? l' =
      if l' = l then String.fromUTF8? content else d.text? l' := by
  unfold text?
  change ((Entry.put (.file content) l d.root).content? l').bind _ = _
  rw [Entry.content?_put h]
  by_cases hl : l' = l <;> simp [hl]

/-! ### Disks of one shape -/

def outline (d : Disk) : Disk := { d with root := d.root.outline }

theorem step_outline (es : List Entry) (name : List Char) :
    step (es.map Entry.outline) name = (step es name).map (List.map Entry.outline) := by
  cases es with
  | nil => rfl
  | cons e above =>
    cases e with
    | file content => rfl
    | dir entries =>
      have hchild := Entry.child?_outline (.dir entries) (String.ofList name)
      simp only [List.map_cons, Entry.outline, step] at hchild ⊢
      split
      · rfl
      · split
        · cases above <;> rfl
        · rw [hchild]
          cases (Entry.dir entries).child? (String.ofList name) <;> rfl

theorem foldlM_step_outline {α : Type} (f : α → List Char) (names : List α) (es : List Entry) :
    names.foldlM (fun es name => step es (f name)) (es.map Entry.outline) =
      (names.foldlM (fun es name => step es (f name)) es).map (List.map Entry.outline) := by
  induction names generalizing es with
  | nil => rfl
  | cons name rest ih =>
    rw [List.foldlM_cons, List.foldlM_cons, step_outline]
    cases step es (f name) with
    | error reason => rfl
    | ok es => exact ih es

theorem follow_outline (d : Disk) (path : String) :
    d.outline.follow path = (d.follow path).map Entry.outline := by
  have hrest (cs : List (List Char)) (es : List Entry) :
      cs.foldlM step (es.map Entry.outline) >>= reached =
        (cs.foldlM step es >>= reached).map Entry.outline := by
    have hfold := foldlM_step_outline id cs es
    simp only [id_eq] at hfold
    rw [hfold]
    cases cs.foldlM step es with
    | error reason => rfl
    | ok entries => cases entries <;> rfl
  have hdescend : d.outline.descend d.cwd = (d.descend d.cwd).map (List.map Entry.outline) :=
    foldlM_step_outline String.toList d.cwd [d.root]
  by_cases hempty : path.isEmpty = true
  · simp only [follow, hempty, if_true]
    rfl
  · rw [follow_eq hempty, follow_eq hempty]
    split
    · exact hrest _ [d.root]
    · change d.outline.descend d.cwd >>= _ = _
      rw [hdescend]
      cases d.descend d.cwd with
      | error reason => rfl
      | ok es => exact hrest _ es

theorem locate_of_outline_eq {d d' : Disk} (h : d.outline = d'.outline) (path : String) :
    d'.locate path = d.locate path := by
  change d'.outline.locate path = d.outline.locate path
  rw [h]

theorem isFile_of_outline_eq {d d' : Disk} (h : d.outline = d'.outline) (path : String) :
    d.isFile path = d'.isFile path := by
  have hfile (d : Disk) : d.outline.isFile path = d.isFile path := by
    unfold isFile
    rw [follow_outline]
    cases d.follow path with
    | error reason => rfl
    | ok e => exact Entry.isFile_outline e
  rw [← hfile d, h, hfile d']

theorem fileCount_of_outline_eq {d d' : Disk} (h : d.outline = d'.outline) :
    d.fileCount = d'.fileCount := by
  have hroot : d.root.outline = d'.root.outline := congrArg Disk.root h
  rw [fileCount, ← Entry.files_outline, hroot, Entry.files_outline]
  rfl

theorem outline_put {d : Disk} {l : Location} {old : ByteArray}
    (h : d.root.content? l = some old) (content : ByteArray) :
    (d.put l (.file content)).outline = d.outline :=
  congrArg (Disk.mk d.cwd) (Entry.outline_put h content)

end Disk

end RouteAtlas
