import Mathlib.Data.List.Forall2
import Mathlib.Data.List.Perm.Basic
import Mathlib.Data.List.Sort
import RouteAtlas.Proofs.DiskContents

set_option autoImplicit false

/-!
# The order in which directories list their entries

A directory lists its entries in an order that depends on the machine. Two disks that differ in
these orders alone are the same to a reader that goes by names. A walk over whole directories finds
the same files in another order, so the project that is loaded from a sorted walk is the same too.
-/
namespace RouteAtlas

namespace Entry

/-- A tree as a file system holds it: the entries of a directory have distinct names, and each has
the name of an entry. -/
inductive Proper : Entry → Prop
  | file (content : ByteArray) : Proper (.file content)
  | dir {entries : List (String × Entry)} (distinct : (entries.map Prod.fst).Nodup)
      (names : ∀ p ∈ entries, Path.IsPlain p.1) (below : ∀ p ∈ entries, Proper p.2) :
      Proper (.dir entries)

/-- The same tree with the entries of every directory listed in some order of their own. -/
inductive Relisted : Entry → Entry → Prop
  | file (content : ByteArray) : Relisted (.file content) (.file content)
  | dir {entries entries' : List (String × Entry)}
      (names : (entries.map Prod.fst).Perm (entries'.map Prod.fst))
      (below : ∀ p ∈ entries, ∀ p' ∈ entries', p.1 = p'.1 → Relisted p.2 p'.2) :
      Relisted (.dir entries) (.dir entries')

theorem proper_dir_iff {entries : List (String × Entry)} :
    (dir entries).Proper ↔ (entries.map Prod.fst).Nodup ∧
      ∀ p ∈ entries, Path.IsPlain p.1 ∧ p.2.Proper := by
  constructor
  · rintro ⟨⟩
    rename_i distinct names below
    exact ⟨distinct, fun p hp => ⟨names p hp, below p hp⟩⟩
  · rintro ⟨distinct, h⟩
    exact .dir distinct (fun p hp => (h p hp).1) fun p hp => (h p hp).2

theorem relisted_dir_iff {entries entries' : List (String × Entry)} :
    (dir entries).Relisted (dir entries') ↔
      (entries.map Prod.fst).Perm (entries'.map Prod.fst) ∧
        ∀ p ∈ entries, ∀ p' ∈ entries', p.1 = p'.1 → p.2.Relisted p'.2 := by
  constructor
  · rintro ⟨⟩
    rename_i names below
    exact ⟨names, below⟩
  · rintro ⟨names, below⟩
    exact .dir names below

structure Alike (e e' : Entry) : Prop where
  proper : e.Proper
  relisted : e.Relisted e'

theorem child?_eq_some_iff {entries : List (String × Entry)}
    (distinct : (entries.map Prod.fst).Nodup) {name : String} {e : Entry} :
    (dir entries).child? name = some e ↔ (name, e) ∈ entries := by
  induction entries with
  | nil => simp [child?]
  | cons first rest ih =>
    obtain ⟨n, f⟩ := first
    obtain ⟨hfirst, hrest⟩ := List.nodup_cons.1 distinct
    by_cases hn : n = name
    · subst hn
      have hnot : (n, e) ∉ rest := fun h => hfirst (List.mem_map.2 ⟨_, h, rfl⟩)
      simp [child?, hnot, eq_comm]
    · have hstep : (dir ((n, f) :: rest)).child? name = (dir rest).child? name := by
        simp [child?, hn]
      have hne : (name, e) ≠ (n, f) := fun heq => hn (congrArg Prod.fst heq).symm
      rw [hstep, ih hrest, List.mem_cons, or_iff_right hne]

theorem child?_eq_none_iff {entries : List (String × Entry)} {name : String} :
    (dir entries).child? name = none ↔ name ∉ entries.map Prod.fst := by
  rw [child?, Option.map_eq_none_iff, List.find?_eq_none]
  simp only [beq_iff_eq, List.mem_map, not_exists, not_and]

theorem Proper.child? {e c : Entry} (h : e.Proper) {name : String}
    (hc : e.child? name = some c) : c.Proper := by
  cases h with
  | file content => cases hc
  | dir distinct _ below => exact below _ ((child?_eq_some_iff distinct).1 hc)

theorem Alike.child? {e e' : Entry} (h : e.Alike e') (name : String) :
    Option.Rel Alike (e.child? name) (e'.child? name) := by
  obtain ⟨proper, relisted⟩ := h
  cases relisted with
  | file content => exact .none
  | @dir entries entries' names below =>
    cases proper with
    | dir distinct _ properBelow =>
      have distinct' : (entries'.map Prod.fst).Nodup := names.nodup_iff.1 distinct
      cases hchild : (dir entries).child? name with
      | none =>
        have hchild' : (dir entries').child? name = none := by
          rw [child?_eq_none_iff] at hchild ⊢
          exact fun hmem => hchild (names.mem_iff.2 hmem)
        rw [hchild']
        exact .none
      | some c =>
        have hmem : (name, c) ∈ entries := (child?_eq_some_iff distinct).1 hchild
        obtain ⟨c', hmem'⟩ : ∃ c', (name, c') ∈ entries' := by
          simpa using names.mem_iff.1 (List.mem_map.2 ⟨_, hmem, rfl⟩)
        have hchild' : (dir entries').child? name = some c' :=
          (child?_eq_some_iff distinct').2 hmem'
        rw [hchild']
        exact .some ⟨properBelow _ hmem, below (name, c) hmem (name, c') hmem' rfl⟩

theorem Alike.isFile_eq {e e' : Entry} (h : e.Alike e') : e'.isFile = e.isFile := by
  cases h.relisted <;> rfl

theorem Alike.isDir_eq {e e' : Entry} (h : e.Alike e') : e'.isDir = e.isDir := by
  cases h.relisted <;> rfl

theorem Alike.textOf_eq {e e' : Entry} (h : e.Alike e') : Disk.textOf e' = Disk.textOf e := by
  cases h.relisted <;> rfl

/-! ### Walks over whole directories -/

theorem files_dir {entries : List (String × Entry)} (distinct : (entries.map Prod.fst).Nodup)
    (enter : String → Bool) :
    (dir entries).files enter = (entries.map Prod.fst).flatMap fun name =>
      (((dir entries).child? name).map (filesOf enter name)).getD [] := by
  rw [files, filesIn_eq, List.flatMap_map]
  refine List.flatMap_congr fun p hp => ?_
  rw [(child?_eq_some_iff distinct).2 hp]
  rfl

theorem Alike.files_perm {e e' : Entry} (h : e.Alike e') (enter : String → Bool) :
    (e.files enter).Perm (e'.files enter) := by
  obtain ⟨proper, relisted⟩ := h
  induction relisted with
  | file content => exact .refl _
  | @dir entries entries' names below ih =>
    have hchild := Alike.child? ⟨proper, .dir names below⟩
    cases proper with
    | dir distinct _ properBelow =>
      have distinct' : (entries'.map Prod.fst).Nodup := names.nodup_iff.1 distinct
      rw [files_dir distinct, files_dir distinct']
      refine names.flatMap fun name _ => ?_
      have hname := hchild name
      generalize hc : (dir entries).child? name = found at hname ⊢
      generalize hc' : (dir entries').child? name = found' at hname ⊢
      cases hname with
      | none => exact .refl _
      | @some c c' halike =>
        have hfiles : (c.files enter).Perm (c'.files enter) :=
          ih (name, c) ((child?_eq_some_iff distinct).1 hc) (name, c')
            ((child?_eq_some_iff distinct').1 hc') rfl halike.proper
        simp only [Option.map_some, Option.getD_some, filesOf, halike.isFile_eq]
        split
        · exact hfiles.map _
        · exact .refl _

end Entry

/-! ### Reading -/

inductive Agree {α β : Type} (R : α → β → Prop) : Except ReadError α → Except ReadError β → Prop
  | ok {a : α} {b : β} (h : R a b) : Agree R (.ok a) (.ok b)
  | error (reason : ReadError) : Agree R (.error reason) (.error reason)

theorem Agree.bind {α β γ δ : Type} {R : α → β → Prop} {S : γ → δ → Prop}
    {x : Except ReadError α} {y : Except ReadError β} {f : α → Except ReadError γ}
    {g : β → Except ReadError δ} (h : Agree R x y) (hfg : ∀ a b, R a b → Agree S (f a) (g b)) :
    Agree S (x >>= f) (y >>= g) := by
  cases h with
  | ok h => exact hfg _ _ h
  | error reason => exact .error reason

theorem Agree.eq {α : Type} {x y : Except ReadError α} (h : Agree Eq x y) : x = y := by
  cases h with
  | ok h => rw [h]
  | error reason => rfl

namespace Disk

structure Proper (d : Disk) : Prop where
  cwd : d.cwd.Plain
  root : d.root.Proper

structure Relisted (d d' : Disk) : Prop where
  cwd : d'.cwd = d.cwd
  root : d.root.Relisted d'.root

theorem step_agree {es es' : List Entry} (h : List.Forall₂ Entry.Alike es es')
    (name : List Char) : Agree (List.Forall₂ Entry.Alike) (step es name) (step es' name) := by
  cases h with
  | nil => exact .error _
  | @cons e e' above above' he habove =>
    have hchild := he.child? (String.ofList name)
    have hup : List.Forall₂ Entry.Alike (if above.isEmpty then [e] else above)
        (if above'.isEmpty then [e'] else above') := by
      cases habove with
      | nil => exact .cons he .nil
      | cons ha has => exact .cons ha has
    cases he.relisted with
    | file content => exact .error _
    | @dir entries entries' names below =>
      simp only [step]
      split
      · exact .ok (.cons he habove)
      · split
        · exact .ok hup
        · generalize (Entry.dir entries).child? (String.ofList name) = found at hchild ⊢
          generalize (Entry.dir entries').child? (String.ofList name) = found' at hchild ⊢
          cases hchild with
          | none => exact .error _
          | some hc => exact .ok (.cons hc (.cons he habove))

theorem foldlM_step_agree {α : Type} (f : α → List Char) (names : List α) {es es' : List Entry}
    (h : List.Forall₂ Entry.Alike es es') :
    Agree (List.Forall₂ Entry.Alike) (names.foldlM (fun es name => step es (f name)) es)
      (names.foldlM (fun es name => step es (f name)) es') := by
  induction names generalizing es es' with
  | nil => exact .ok h
  | cons name rest ih =>
    rw [List.foldlM_cons, List.foldlM_cons]
    exact (step_agree h (f name)).bind fun _ _ => ih

theorem reached_agree {es es' : List Entry} (h : List.Forall₂ Entry.Alike es es') :
    Agree Entry.Alike (reached es) (reached es') := by
  cases h with
  | nil => exact .error _
  | cons he _ => exact .ok he

variable {d d' : Disk}

theorem Relisted.locate_eq (h : d.Relisted d') (path : String) :
    d'.locate path = d.locate path := by
  rw [locate, locate, h.cwd]

section Alike

variable (proper : d.Proper) (h : d.Relisted d')

include proper h

theorem roots_alike : List.Forall₂ Entry.Alike [d.root] [d'.root] :=
  .cons ⟨proper.root, h.root⟩ .nil

theorem descend_agree (l : Location) :
    Agree (List.Forall₂ Entry.Alike) (d.descend l) (d'.descend l) :=
  foldlM_step_agree String.toList l (roots_alike proper h)

theorem follow_agree (path : String) : Agree Entry.Alike (d.follow path) (d'.follow path) := by
  by_cases hempty : path.isEmpty = true
  · simp only [follow, hempty, if_true]
    exact .error _
  · rw [follow_eq hempty, follow_eq hempty]
    have hbase : Agree (List.Forall₂ Entry.Alike)
        (if Path.isAbsolute path then .ok [d.root] else d.descend d.cwd)
        (if Path.isAbsolute path then .ok [d'.root] else d'.descend d'.cwd) := by
      split
      · exact .ok (roots_alike proper h)
      · rw [h.cwd]
        exact descend_agree proper h d.cwd
    refine hbase.bind fun es es' hes => ?_
    exact (foldlM_step_agree id _ hes).bind fun _ _ => reached_agree

theorem isDir_relisted (path : String) : d'.isDir path = d.isDir path := by
  have hfollow := follow_agree proper h path
  unfold isDir
  generalize d.follow path = found at hfollow ⊢
  generalize d'.follow path = found' at hfollow ⊢
  cases hfollow with
  | ok he => exact he.isDir_eq
  | error reason => rfl

theorem isFile_relisted (path : String) : d'.isFile path = d.isFile path := by
  have hfollow := follow_agree proper h path
  unfold isFile
  generalize d.follow path = found at hfollow ⊢
  generalize d'.follow path = found' at hfollow ⊢
  cases hfollow with
  | ok he => exact he.isFile_eq
  | error reason => rfl

theorem readAt_relisted (l : Location) : d'.readAt l = d.readAt l := by
  rw [readAt_eq, readAt_eq]
  refine (Agree.eq ?_).symm
  refine (descend_agree proper h l).bind fun es es' hes => ?_
  refine (reached_agree hes).bind fun e e' he => ?_
  rw [he.textOf_eq]
  cases textOf e with
  | ok text => exact .ok rfl
  | error reason => exact .error reason

theorem fileCount_relisted : d'.fileCount = d.fileCount := by
  have halike : d.root.Alike d'.root := ⟨proper.root, h.root⟩
  exact (halike.files_perm _).length_eq.symm

theorem entry?_alike (l : Location) : Option.Rel Entry.Alike (d.entry? l) (d'.entry? l) := by
  have hfold : ∀ {found found' : Option Entry}, Option.Rel Entry.Alike found found' →
      Option.Rel Entry.Alike (l.foldl (fun e name => e.bind (Entry.child? name)) found)
        (l.foldl (fun e name => e.bind (Entry.child? name)) found') := by
    induction l with
    | nil => exact id
    | cons name rest ih =>
      intro found found' hfound
      apply ih
      cases hfound with
      | none => exact .none
      | some he => exact he.child? name
  exact hfold (.some ⟨proper.root, h.root⟩)

theorem filesBelow_perm (enter : String → Bool) (l : Location) :
    (d.filesBelow enter l).Perm (d'.filesBelow enter l) := by
  have hentry := entry?_alike proper h l
  unfold filesBelow
  generalize d.entry? l = found at hentry ⊢
  generalize d'.entry? l = found' at hentry ⊢
  cases hentry with
  | none => exact .refl _
  | some he => exact (he.files_perm enter).map _

end Alike

end Disk

/-! ### Loading -/

namespace Location

theorem le_iff {l l' : Location} : le l l' = true ↔ l = l' ∨ List.Lex (· < ·) l l' := by
  induction l generalizing l' with
  | nil =>
    cases l' with
    | nil => exact ⟨fun _ => .inl rfl, fun _ => rfl⟩
    | cons b bs => exact ⟨fun _ => .inr .nil, fun _ => rfl⟩
  | cons a as ih =>
    cases l' with
    | nil => exact ⟨nofun, nofun⟩
    | cons b bs =>
      by_cases h : a = b
      · subst h
        rw [le, if_pos rfl, ih]
        constructor
        · rintro (rfl | hlex)
          · exact .inl rfl
          · exact .inr (.cons hlex)
        · rintro (heq | hlex)
          · exact .inl (List.cons.inj heq).2
          · cases hlex with
            | rel hlt => exact absurd hlt (String.lt_irrefl a)
            | cons hlex => exact .inr hlex
      · rw [le, if_neg h, decide_eq_true_iff]
        constructor
        · exact fun hlt => .inr (.rel hlt)
        · rintro (heq | hlex)
          · exact absurd (List.cons.inj heq).1 h
          · cases hlex with
            | rel hlt => exact hlt
            | cons _ => exact absurd rfl h

theorem le_total (l l' : Location) : (le l l' || le l' l) = true := by
  induction l generalizing l' with
  | nil => rfl
  | cons a as ih =>
    cases l' with
    | nil => simp [le]
    | cons b bs =>
      by_cases h : a = b
      · simpa [le, h] using ih bs
      · have hlt : a < b ∨ b < a := by
          by_contra hnot
          rw [not_or, String.not_lt, String.not_lt] at hnot
          exact h (String.le_antisymm hnot.2 hnot.1)
        simpa [le, h, Ne.symm h] using hlt

theorem le_trans {l m n : Location} (h : le l m = true) (h' : le m n = true) : le l n = true := by
  rw [le_iff] at *
  rcases h with rfl | h
  · exact h'
  · rcases h' with rfl | h'
    · exact .inr h
    · exact .inr (List.lex_trans String.lt_trans h h')

theorem le_antisymm {l m : Location} (h : le l m = true) (h' : le m l = true) : l = m := by
  rw [le_iff] at *
  rcases h with rfl | h
  · rfl
  · rcases h' with rfl | h'
    · rfl
    · exact absurd h' (List.lex_asymm String.lt_asymm h)

theorem pairwise_mergeSort (ls : List Location) :
    (ls.mergeSort le).Pairwise fun l m => le l m = true :=
  @List.pairwise_mergeSort _ le (fun _ _ _ => le_trans) le_total ls

/-- Sorting forgets the order that there was before. -/
theorem mergeSort_eq_of_perm {ls ls' : List Location} (h : ls.Perm ls') :
    ls.mergeSort le = ls'.mergeSort le := by
  have hperm : (ls.mergeSort le).Perm (ls'.mergeSort le) :=
    (List.mergeSort_perm ls le).trans (h.trans (List.mergeSort_perm ls' le).symm)
  exact hperm.eq_of_pairwise (fun _ _ _ _ => le_antisymm) (pairwise_mergeSort ls)
    (pairwise_mergeSort ls')

end Location

section Load

variable {disk disk' : Disk} (proper : disk.Proper) (h : disk.Relisted disk')

include proper h

namespace ImportMap

theorem loadChain_relisted (base : Except ConfigError ImportMap) (n : Nat)
    (visited : List Location) (path : String) :
    loadChain disk' base n visited path = loadChain disk base n visited path := by
  induction n generalizing visited path with
  | zero => rfl
  | succ n ih =>
    simp only [loadChain, h.locate_eq, Disk.readAt_relisted proper h,
      Disk.isFile_relisted proper h, ih]

theorem load_relisted (path : String) : load disk' path = load disk path := by
  rw [load, load, Disk.fileCount_relisted proper h, loadChain_relisted proper h]

theorem ofProject_relisted (root : String) : ofProject disk' root = ofProject disk root := by
  have hfirst : ∀ names : List String, ofFirst disk' root names = ofFirst disk root names := by
    intro names
    induction names with
    | nil => rfl
    | cons name rest ih =>
      dsimp only [ofFirst]
      rw [Disk.isFile_relisted proper h, load_relisted proper h, ih]
  exact hfirst configNames

end ImportMap

namespace Project

theorem parseAt_relisted (l : Location) : parseAt disk' l = parseAt disk l := by
  simp only [parseAt, Disk.readAt_relisted proper h]

theorem loadAt_relisted (p : Project) (l : Location) : p.loadAt disk' l = p.loadAt disk l := by
  simp only [loadAt, parseAt_relisted proper h]

theorem loadAll_relisted (p : Project) (ls : List Location) :
    loadAll disk' p ls = loadAll disk p ls := by
  induction ls generalizing p with
  | nil => rfl
  | cons l rest ih => simp only [loadAll, loadAt_relisted proper h, ih]

theorem sources_relisted (root : Location) : sources disk' root = sources disk root :=
  (Location.mergeSort_eq_of_perm ((Disk.filesBelow_perm proper h _ root).filter _)).symm

theorem load_relisted (root : String) : load disk' root = load disk root := by
  have hfrom (l : Location) : loadFrom disk' l = loadFrom disk l := by
    simp only [loadFrom, ImportMap.ofProject_relisted proper h, sources_relisted proper h,
      loadAll_relisted proper h]
  simp only [load, Disk.isDir_relisted proper h, h.locate_eq, hfrom]

end Project

end Load

end RouteAtlas
