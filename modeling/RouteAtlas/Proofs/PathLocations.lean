import RouteAtlas.Proofs.RelativePaths

set_option autoImplicit false

namespace RouteAtlas

/-- A name that stands for an entry of a directory, and not for the directory or the one above. -/
def Path.IsPlain (name : String) : Prop := Path.IsName name ∧ name ≠ "." ∧ name ≠ ".."

instance (name : String) : Decidable (Path.IsPlain name) :=
  inferInstanceAs (Decidable (_ ∧ _ ∧ _))

def Location.Plain (l : Location) : Prop := ∀ name ∈ l, Path.IsPlain name

instance (l : Location) : Decidable l.Plain := inferInstanceAs (Decidable (∀ name ∈ l, _))

namespace Path

theorem names_empty : names "" = [] := by decide

theorem names_slash (s t : String) : names (s ++ "/" ++ t) = names s ++ names t := by
  have htext : (s ++ "/" ++ t).toList = s.toList ++ '/' :: t.toList := by simp
  rw [names, htext, Text.split_append_sep, List.filter_append, List.map_append]
  rfl

/-- What can stand before the last name of a path: nothing, or a text that ends with a slash. -/
def IsLead (lead : String) : Prop := lead = "" ∨ ∃ before, lead = before ++ "/"

theorem isLead_of_getLast? {s : String} (h : s.toList.getLast? = some '/') : IsLead s := by
  obtain ⟨before, hbefore⟩ := List.getLast?_eq_some_iff.1 h
  refine .inr ⟨String.ofList before, ?_⟩
  rw [← String.ofList_toList (s := s), hbefore]
  simp

theorem names_lead {lead : String} (h : IsLead lead) (rest : String) :
    names (lead ++ rest) = names lead ++ names rest := by
  rcases h with rfl | ⟨before, rfl⟩
  · rw [String.empty_append, names_empty, List.nil_append]
  · have hend := names_slash before ""
    rw [String.append_empty, names_empty, List.append_nil] at hend
    rw [names_slash, hend]

theorem names_of_isPlain {name : String} (h : IsPlain name) : names name = [name] := by
  obtain ⟨⟨hne, hslash⟩, hdot, _⟩ := h
  have hne : name.toList ≠ [] := fun hnil => hne (String.toList_eq_nil_iff.1 hnil)
  have hdot : name.toList ≠ ['.'] := fun heq => hdot (String.toList_inj.1 heq)
  simp [names, Text.split_of_not_mem hslash, hne, hdot]

theorem ne_dot_of_mem_names {path name : String} (h : name ∈ names path) : name ≠ "." := by
  obtain ⟨c, hc, rfl⟩ := List.mem_map.1 h
  have hne := (List.mem_filter.1 hc).2
  simp only [ne_eq, Bool.and_eq_true, decide_eq_true_eq] at hne
  intro hdot
  exact hne.2 (by simpa using congrArg String.toList hdot)

/-! ### Plain locations -/

theorem enter_of_isPlain {l : Location} {name : String} (h : IsPlain name) :
    enter l name = l ++ [name] := if_neg h.2.2

theorem foldl_enter_plain {l : Location} {path : String} (hl : l.Plain) {ns : List String}
    (hns : ∀ name ∈ ns, name ∈ names path) : (ns.foldl enter l).Plain := by
  induction ns generalizing l with
  | nil => exact hl
  | cons name rest ih =>
    refine ih ?_ fun n hn => hns n (List.mem_cons_of_mem _ hn)
    have hname := hns name List.mem_cons_self
    unfold enter
    split
    · exact fun n hn => hl n (List.dropLast_subset _ hn)
    · rename_i hup
      intro n hn
      rcases List.mem_append.1 hn with hn | hn
      · exact hl n hn
      · cases List.mem_singleton.1 hn
        exact ⟨isName_of_mem_names hname, ne_dot_of_mem_names hname, hup⟩

theorem locate_plain {cwd : Location} {path : String}
    (h : isAbsolute path = false → cwd.Plain) : (locate cwd path).Plain := by
  apply foldl_enter_plain _ fun _ hname => hname
  split
  · exact fun _ h => absurd h List.not_mem_nil
  · rename_i hrel
    exact h (by simpa using hrel)

/-! ### Appended paths -/

theorem isAbsolute_append {s t : String} (h : s ≠ "") : isAbsolute (s ++ t) = isAbsolute s := by
  cases hs : s.toList with
  | nil => exact absurd (String.toList_eq_nil_iff.1 hs) h
  | cons c cs => simp [isAbsolute, hs]

theorem isAbsolute_of_dot {path : String} (h : path.toList.head? = some '.') :
    isAbsolute path = false := by
  simp [isAbsolute, h]

theorem isAbsolute_join {base path : String} (h : isAbsolute path = false) :
    isAbsolute (join base path) = isAbsolute base := by
  unfold join
  rw [h, Bool.false_or]
  split
  · rename_i hbase
    rw [h, String.isEmpty_iff.1 hbase]
    rfl
  · rename_i hbase
    have hne : base ≠ "" := fun hempty => hbase (String.isEmpty_iff.2 hempty)
    split
    · exact isAbsolute_append hne
    · rw [String.append_assoc]
      exact isAbsolute_append hne

theorem names_join {base path : String} (h : isAbsolute path = false) :
    names (join base path) = names base ++ names path := by
  unfold join
  rw [h, Bool.false_or]
  split
  · rename_i hbase
    rw [String.isEmpty_iff.1 hbase, names_empty, List.nil_append]
  · split
    · rename_i hlast
      exact names_lead (isLead_of_getLast? hlast) path
    · exact names_slash base path

theorem join_append (base : String) {path : String} (hpath : path ≠ "") (rest : String) :
    join base (path ++ rest) = join base path ++ rest := by
  unfold join
  rw [isAbsolute_append hpath]
  split
  · rfl
  · split <;> simp only [String.append_assoc]

theorem locate_join (cwd : Location) {base path : String} (h : isAbsolute path = false) :
    locate cwd (join base path) = (names path).foldl enter (locate cwd base) := by
  rw [locate, names_join h, isAbsolute_join h, List.foldl_append]
  rfl

theorem isAbsolute_of_isPlain {name : String} (h : IsPlain name) : isAbsolute name = false := by
  have hslash := h.1.2
  cases hname : name.toList with
  | nil => simp [isAbsolute, hname]
  | cons c cs =>
    have hc : c ≠ '/' := fun hc => hslash (by simp [hname, hc])
    simpa [isAbsolute, hname] using hc

theorem locate_join_name (cwd : Location) (base : String) {name : String} (h : IsPlain name) :
    locate cwd (join base name) = locate cwd base ++ [name] := by
  rw [locate_join cwd (isAbsolute_of_isPlain h), names_of_isPlain h]
  exact enter_of_isPlain h

/-! ### The last name -/

theorem isAbsolute_append_name (lead : String) {name : String} (hname : IsPlain name) :
    isAbsolute (lead ++ name) = isAbsolute lead := by
  by_cases hne : lead = ""
  · rw [hne, String.empty_append, isAbsolute_of_isPlain hname]
    rfl
  · exact isAbsolute_append hne

theorem locate_lead (cwd : Location) {lead name : String} (hlead : IsLead lead)
    (hname : IsPlain name) : locate cwd (lead ++ name) = locate cwd lead ++ [name] := by
  rw [locate, names_lead hlead, isAbsolute_append_name lead hname, List.foldl_append,
    names_of_isPlain hname]
  exact enter_of_isPlain hname

def lastPart (path : String) : String :=
  String.ofList (((Text.split '/' path.toList).getLast?).getD [])

theorem lastPart_lead {lead name : String} (hlead : IsLead lead) (hname : '/' ∉ name.toList) :
    lastPart (lead ++ name) = name := by
  have hparts := Text.split_of_not_mem hname
  rcases hlead with rfl | ⟨before, rfl⟩
  · simp [lastPart, hparts]
  · have htext : (before ++ "/" ++ name).toList = before.toList ++ '/' :: name.toList := by simp
    simp [lastPart, htext, Text.split_append_sep, hparts]

theorem exists_lead (path : String) :
    ∃ lead, IsLead lead ∧ path = lead ++ lastPart path ∧ '/' ∉ (lastPart path).toList := by
  -- the text is read from its end up to the first slash
  have hcut : ∃ lead name, IsLead lead ∧ path = lead ++ name ∧ '/' ∉ name.toList := by
    cases h : Text.splitLast? '/' path.toList with
    | some cut =>
      obtain ⟨htext, hslash⟩ := Text.splitLast?_eq_some_iff.1 h
      refine ⟨String.ofList cut.1 ++ "/", String.ofList cut.2, .inr ⟨_, rfl⟩, ?_, by simpa⟩
      rw [← String.toList_inj, htext]
      simp
    | none =>
      exact ⟨"", path, .inl rfl, String.empty_append.symm, Text.splitLast?_eq_none_iff.1 h⟩
  obtain ⟨lead, name, hlead, rfl, hslash⟩ := hcut
  rw [lastPart_lead hlead hslash]
  exact ⟨lead, hlead, rfl, hslash⟩

theorem exists_lead_join (base : String) {path : String} (h : isAbsolute path = false) :
    ∃ lead, IsLead lead ∧ join base path = lead ++ lastPart path := by
  obtain ⟨lead, hlead, hpath, _⟩ := exists_lead path
  have hjoin : ∃ before, IsLead before ∧ join base path = before ++ path := by
    unfold join
    rw [h, Bool.false_or]
    split
    · exact ⟨"", .inl rfl, String.empty_append.symm⟩
    · split
      · rename_i hlast
        exact ⟨base, isLead_of_getLast? hlast, rfl⟩
      · exact ⟨base ++ "/", .inr ⟨base, rfl⟩, rfl⟩
  obtain ⟨before, hbefore, heq⟩ := hjoin
  refine ⟨before ++ lead, ?_, ?_⟩
  · rcases hlead with rfl | ⟨rest, rfl⟩
    · rwa [String.append_empty]
    · exact .inr ⟨before ++ rest, (String.append_assoc ..).symm⟩
  · rw [heq, String.append_assoc, ← hpath]

theorem fileName?_lead {lead name : String} (hlead : IsLead lead) (hname : IsPlain name) :
    fileName? (lead ++ name) = some name := by
  rw [fileName?, names_lead hlead, names_of_isPlain hname, List.getLast?_concat]
  exact if_neg hname.2.2

/-! ### Extensions -/

theorem splitExtension?_eq_some_iff {name stem ext : String} :
    splitExtension? name = some (stem, ext) ↔
      name = stem ++ "." ++ ext ∧ stem ≠ "" ∧ '.' ∉ ext.toList := by
  have hcut : Text.splitLast? '.' name.toList = some (stem.toList, ext.toList) ↔
      name = stem ++ "." ++ ext ∧ '.' ∉ ext.toList := by
    rw [Text.splitLast?_eq_some_iff, ← String.toList_inj]
    simp
  unfold splitExtension?
  cases h : Text.splitLast? '.' name.toList with
  | none =>
    rw [h] at hcut
    simp only [reduceCtorEq, false_iff, not_and] at hcut ⊢
    exact fun hname _ => hcut hname
  | some cut =>
    obtain ⟨a, b⟩ := cut
    rw [h, Option.some.injEq, Prod.mk.injEq] at hcut
    by_cases hstem : a = []
    · simp only [hstem, List.isEmpty_nil, if_true, reduceCtorEq, false_iff]
      rintro ⟨hname, hne, hext⟩
      have ha := (hcut.2 ⟨hname, hext⟩).1
      exact hne (String.toList_eq_nil_iff.1 (ha.symm.trans hstem))
    · have hempty : a.isEmpty = false := by simpa using hstem
      simp only [hempty, Bool.false_eq_true, if_false, Option.some.injEq, Prod.mk.injEq]
      constructor
      · rintro ⟨rfl, rfl⟩
        obtain ⟨hname, hext⟩ := hcut.1 (by simp)
        exact ⟨hname, by simpa using hstem, hext⟩
      · rintro ⟨hname, _, hext⟩
        obtain ⟨ha, hb⟩ := hcut.2 ⟨hname, hext⟩
        simp [ha, hb]

theorem splitExtension?_eq_none_iff {name : String} :
    splitExtension? name = none ↔ '.' ∉ name.toList.tail := by
  constructor
  · intro hnone htail
    cases h : Text.splitLast? '.' name.toList with
    | none => exact Text.splitLast?_eq_none_iff.1 h (List.mem_of_mem_tail htail)
    | some cut =>
      obtain ⟨s, ext⟩ := cut
      obtain ⟨hname, hext⟩ := Text.splitLast?_eq_some_iff.1 h
      have hs : s ≠ [] := by
        rintro rfl
        rw [hname] at htail
        exact hext htail
      have hsome : splitExtension? name = some (String.ofList s, String.ofList ext) := by
        refine splitExtension?_eq_some_iff.2 ⟨?_, by simpa using hs, by simpa using hext⟩
        rw [← String.toList_inj, hname]
        simp
      rw [hnone] at hsome
      cases hsome
  · intro htail
    cases h : splitExtension? name with
    | none => rfl
    | some cut =>
      obtain ⟨s, ext⟩ := cut
      obtain ⟨rfl, hs, _⟩ := splitExtension?_eq_some_iff.1 h
      refine absurd ?_ htail
      cases hlist : s.toList with
      | nil => exact absurd (String.toList_eq_nil_iff.1 hlist) hs
      | cons first rest => simp [hlist]

theorem extension?_lead {lead name : String} (hlead : IsLead lead) (hname : IsPlain name) :
    extension? (lead ++ name) = (splitExtension? name).map (·.2) := by
  rw [extension?, fileName?_lead hlead hname, Option.bind_some]

def stem (name : String) : String := ((splitExtension? name).map (·.1)).getD name

theorem exists_stem_append (name : String) : ∃ rest, name = stem name ++ rest := by
  unfold stem
  cases h : splitExtension? name with
  | none => exact ⟨"", by simp⟩
  | some cut =>
    obtain ⟨s, ext⟩ := cut
    obtain ⟨hname, _, _⟩ := splitExtension?_eq_some_iff.1 h
    exact ⟨"." ++ ext, by simpa [String.append_assoc] using hname⟩

theorem stem_ne_empty {name : String} (h : name ≠ "") : stem name ≠ "" := by
  unfold stem
  cases hcut : splitExtension? name with
  | none => exact h
  | some cut => exact (splitExtension?_eq_some_iff.1 hcut).2.1

theorem extended_ne {s ext t : String} (hs : s ≠ "") (hext : ext ≠ "") (ht : t.length ≤ 2) :
    s ++ "." ++ ext ≠ t := by
  rintro rfl
  have hs : s.length ≠ 0 := fun h => hs (String.length_eq_zero_iff.1 h)
  have hext : ext.length ≠ 0 := fun h => hext (String.length_eq_zero_iff.1 h)
  have hdot : ".".length = 1 := by decide
  rw [String.length_append, String.length_append, hdot] at ht
  omega

theorem isPlain_extended {s ext : String} (hs : s ≠ "") (hslash : '/' ∉ s.toList) (hext : ext ≠ "")
    (hextslash : '/' ∉ ext.toList) : IsPlain (s ++ "." ++ ext) := by
  refine ⟨⟨extended_ne hs hext (by decide), ?_⟩, extended_ne hs hext (by decide),
    extended_ne hs hext (by decide)⟩
  simp [hslash, hextslash]

theorem stem_extended {s ext : String} (hs : s ≠ "") (hdot : '.' ∉ ext.toList) :
    stem (s ++ "." ++ ext) = s := by
  rw [stem, splitExtension?_eq_some_iff.2 ⟨rfl, hs, hdot⟩]
  rfl

theorem extension?_eq_some_iff {path ext : String} (hdot : '.' ∉ ext.toList) :
    extension? path = some ext ↔
      ∃ s, s ≠ "" ∧ fileName? path = some (s ++ "." ++ ext) := by
  simp only [extension?, Option.bind_eq_some_iff, Option.map_eq_some_iff, Prod.exists,
    splitExtension?_eq_some_iff]
  constructor
  · rintro ⟨name, hfile, s, _, ⟨rfl, hs, _⟩, rfl⟩
    exact ⟨s, hs, hfile⟩
  · rintro ⟨s, hs, hfile⟩
    exact ⟨_, hfile, s, ext, ⟨rfl, hs, hdot⟩, rfl⟩

/-- The slashes and dots that follow the last name are dropped, and no name with them. -/
theorem names_dropTailReversed (cs : List Char) :
    names (String.ofList (dropTailReversed cs).reverse) = names (String.ofList cs.reverse) := by
  fun_induction dropTailReversed cs with
  | case1 cs ih =>
    have hslash := names_slash (String.ofList cs.reverse) ""
    rw [String.append_empty, names_empty, List.append_nil] at hslash
    rw [ih, ← hslash]
    simp
  | case2 cs ih =>
    have hslash := names_slash (String.ofList cs.reverse) "."
    have hdot : names "." = [] := by decide
    rw [hdot, List.append_nil] at hslash
    rw [ih, ← hslash]
    simp [String.append_assoc]
  | case3 cs _ _ => rfl

theorem dropTailReversed_suffix (cs : List Char) : dropTailReversed cs <:+ cs := by
  fun_induction dropTailReversed cs with
  | case1 cs ih => exact ih.trans (List.suffix_cons _ _)
  | case2 cs ih => exact ih.trans ((List.suffix_cons _ _).trans (List.suffix_cons _ _))
  | case3 cs _ _ => exact List.suffix_refl cs

theorem dropTailReversed_ne (cs rest : List Char) :
    dropTailReversed cs ≠ '/' :: rest ∧ dropTailReversed cs ≠ '.' :: '/' :: rest := by
  fun_induction dropTailReversed cs with
  | case1 cs ih => exact ih
  | case2 cs ih => exact ih
  | case3 cs hslash hdot => exact ⟨hslash rest, hdot rest⟩

theorem dropTailReversed_lead (lead : String) {name : String} (hname : IsPlain name) :
    dropTailReversed (lead ++ name).toList.reverse = (lead ++ name).toList.reverse := by
  obtain ⟨⟨hne, hslash⟩, hdot, _⟩ := hname
  have htext : (lead ++ name).toList.reverse = name.toList.reverse ++ lead.toList.reverse := by
    simp
  have hslash : '/' ∉ name.toList.reverse := by simpa using hslash
  rw [htext]
  cases hrev : name.toList.reverse with
  | nil => exact absurd (by simpa using hrev) hne
  | cons c cs =>
    rw [hrev] at hslash
    cases cs with
    | nil =>
      -- a single character, which is neither a slash nor a dot
      have hc : c ≠ '/' := by
        rintro rfl
        simp at hslash
      have hname : name = String.ofList [c] := by
        rw [← String.toList_inj, String.toList_ofList]
        simpa using congrArg List.reverse hrev
      have hcdot : c ≠ '.' := by
        rintro rfl
        exact hdot hname
      rw [dropTailReversed.eq_def]
      split <;> simp_all
    | cons d ds =>
      rw [dropTailReversed.eq_def]
      split <;> simp_all

theorem exists_lead_of_fileName? {path name : String} (h : fileName? path = some name) :
    ∃ lead, IsLead lead ∧ IsPlain name ∧
      String.ofList (dropTailReversed path.toList.reverse).reverse = lead ++ name ∧
      names path = names lead ++ [name] ∧ isAbsolute path = isAbsolute lead := by
  obtain ⟨u, hu⟩ : ∃ u, u = String.ofList (dropTailReversed path.toList.reverse).reverse :=
    ⟨_, rfl⟩
  have hrev : u.toList.reverse = dropTailReversed path.toList.reverse := by simp [hu]
  have hends (rest : List Char) := dropTailReversed_ne path.toList.reverse rest
  have hnames : names u = names path := by
    rw [hu, names_dropTailReversed, List.reverse_reverse, String.ofList_toList]
  have hsome : names u ≠ [] := by
    intro hnil
    simp [fileName?, ← hnames, hnil] at h
  obtain ⟨lead, hlead, hpart, hslash⟩ := exists_lead u
  have hne : lastPart u ≠ "" := by
    intro hempty
    rw [hempty, String.append_empty] at hpart
    rcases hlead with hnil | ⟨before, hbefore⟩
    · exact hsome (by rw [hpart, hnil, names_empty])
    · refine (hends before.toList.reverse).1 ?_
      rw [← hrev, hpart, hbefore]
      simp
  have hdot : lastPart u ≠ "." := by
    intro hdot
    rw [hdot] at hpart
    rcases hlead with hnil | ⟨before, hbefore⟩
    · exact hsome (by rw [hpart, hnil]; decide)
    · refine (hends before.toList.reverse).2 ?_
      rw [← hrev, hpart, hbefore]
      simp
  have hup : lastPart u ≠ ".." := by
    intro hup
    have hlast : names path = names lead ++ [".."] := by
      rw [← hnames, hpart, names_lead hlead, hup]
      exact congrArg (names lead ++ ·) (by decide)
    simp [fileName?, hlast] at h
  have hplain : IsPlain (lastPart u) := ⟨⟨hne, hslash⟩, hdot, hup⟩
  have hlast : names path = names lead ++ [lastPart u] := by
    rw [← hnames, hpart, names_lead hlead, ← hpart, names_of_isPlain hplain]
  obtain rfl : lastPart u = name := by
    rw [fileName?, hlast, List.getLast?_concat] at h
    simpa [hup] using h
  refine ⟨lead, hlead, hplain, hu ▸ hpart, hlast, ?_⟩
  -- the path begins with what is left of it
  obtain ⟨tail, htail⟩ := dropTailReversed_suffix path.toList.reverse
  have hpath : path = u ++ String.ofList tail.reverse := by
    rw [← String.toList_inj, ← List.reverse_inj, ← htail, ← hrev]
    simp
  have hune : u ≠ "" := by
    rintro rfl
    exact hsome names_empty
  rw [hpath, isAbsolute_append hune, hpart, isAbsolute_append_name lead (hpart ▸ hplain)]

theorem withExtension_eq {path name lead : String} (h : fileName? path = some name)
    (hlead : String.ofList (dropTailReversed path.toList.reverse).reverse = lead ++ name)
    (ext : String) : withExtension path ext = lead ++ (stem name ++ "." ++ ext) := by
  obtain ⟨rest, hrest⟩ := exists_stem_append name
  have hkept : (dropTailReversed path.toList.reverse).reverse = lead.toList ++ name.toList := by
    simpa using congrArg String.toList hlead
  have hlength : name.length = (stem name).length + rest.length := by
    conv => lhs; rw [hrest]
    exact String.length_append _ _
  have htake : (lead.toList ++ name.toList).take ((lead.toList ++ name.toList).length -
      (name.length - (stem name).length)) = lead.toList ++ (stem name).toList := by
    have htext : name.toList = (stem name).toList ++ rest.toList := by
      conv => lhs; rw [hrest]
      exact String.toList_append
    have hcount : (lead.toList ++ name.toList).length - (name.length - (stem name).length) =
        (lead.toList ++ (stem name).toList).length := by
      simp only [List.length_append, String.length_toList, hlength]
      omega
    rw [hcount, htext, ← List.append_assoc, List.take_left]
  unfold withExtension
  rw [h]
  change String.ofList (List.take (_ - (name.length - (stem name).length)) _) ++ "." ++ ext = _
  rw [hkept, htake]
  simp [String.append_assoc]

theorem withExtension_lead {lead name : String} (hlead : IsLead lead) (hname : IsPlain name)
    (ext : String) : withExtension (lead ++ name) ext = lead ++ (stem name ++ "." ++ ext) := by
  refine withExtension_eq (fileName?_lead hlead hname) ?_ ext
  rw [dropTailReversed_lead lead hname, List.reverse_reverse, String.ofList_toList]

theorem stem_noSlash {name : String} (h : IsPlain name) : '/' ∉ (stem name).toList := by
  obtain ⟨rest, hrest⟩ := exists_stem_append name
  intro hmem
  refine h.1.2 ?_
  rw [hrest]
  simp [hmem]

theorem locate_withExtension (cwd : Location) {path name ext : String}
    (h : fileName? path = some name) (hne : ext ≠ "") (hslash : '/' ∉ ext.toList) :
    locate cwd (withExtension path ext) =
      (locate cwd path).dropLast ++ [stem name ++ "." ++ ext] := by
  obtain ⟨lead, hlead, hplain, hkept, hnames, habs⟩ := exists_lead_of_fileName? h
  have hnew := isPlain_extended (stem_ne_empty hplain.1.1) (stem_noSlash hplain) hne hslash
  have hhere : locate cwd path = locate cwd lead ++ [name] := by
    rw [locate, hnames, habs, List.foldl_append]
    exact enter_of_isPlain hplain
  rw [withExtension_eq h hkept, locate_lead cwd hlead hnew, hhere, List.dropLast_concat]

theorem isAbsolute_withExtension (path : String) {ext : String} (hne : ext ≠ "")
    (hslash : '/' ∉ ext.toList) : isAbsolute (withExtension path ext) = isAbsolute path := by
  cases h : fileName? path with
  | none => rw [withExtension, h]
  | some name =>
    obtain ⟨lead, _, hplain, hkept, _, habs⟩ := exists_lead_of_fileName? h
    have hnew := isPlain_extended (stem_ne_empty hplain.1.1) (stem_noSlash hplain) hne hslash
    rw [withExtension_eq h hkept, isAbsolute_append_name lead hnew, habs]

end Path

end RouteAtlas
