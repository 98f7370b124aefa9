import RouteAtlas.Project.Basic
import RouteAtlas.Proofs.SyntaxParts

set_option autoImplicit false

namespace RouteAtlas

open Script

namespace ModuleIndex

def declaration? (file : Nat) : IndexEffect → Option Declaration
  | .declare name span kind _ _ => some ⟨file, name, span, kind⟩
  | .star _ => none
  | .localExport _ _ => none

theorem foldl_enter_decls (file : Nat) (effects : List IndexEffect) (decls : List Declaration)
    (index : ModuleIndex) :
    (effects.foldl (enter file) (decls, index)).1 =
      decls ++ effects.filterMap (declaration? file) := by
  induction effects generalizing decls index with
  | nil => simp
  | cons effect rest ih =>
    rw [List.foldl_cons]
    cases effect with
    | declare name span kind bound exported => simp [enter, ih, declaration?]
    | star specifier => simp [enter, ih, List.filterMap_cons, declaration?]
    | localExport name exported => simp [enter, ih, List.filterMap_cons, declaration?]

theorem ofItems_decls (file : Nat) (decls : List Declaration) (items : List Item) :
    (ofItems file decls items).1 =
      decls ++ (items.flatMap effects).filterMap (declaration? file) :=
  foldl_enter_decls file (items.flatMap effects) decls {}

theorem declared_value {node e : Node} {name : String} {span : Span}
    (h : (name, span, DeclKind.value e) ∈ declared node) : e ∈ node.preorder := by
  unfold declared at h
  split at h
  · obtain ⟨d, hd, h⟩ := List.mem_filterMap.1 h
    split at h
    · rename_i declSpan nameSpan _ types value
      cases value with
      | none => simp at h
      | some value =>
        simp only [Option.map_some, Option.getD_some, Option.some.injEq, Prod.mk.injEq,
          DeclKind.value.injEq] at h
        obtain ⟨_, _, rfl⟩ := h
        refine Node.preorder_subset_of_mem (Node.child_mem_preorder hd) ?_
        exact Node.child_mem_preorder (by simp [Node.children])
    · cases h
  · simp at h
  · simp at h
  · cases h

theorem effects_value {item : Item} {e : Node} {name : String} {span : Span}
    {bound exported : List String} (h : .declare name span (.value e) bound exported ∈ effects item) :
    ∃ n ∈ item.nodes, e ∈ n.preorder := by
  unfold effects at h
  split at h
  case h_1 node =>
    obtain ⟨⟨_, _, kind⟩, hd, h⟩ := List.mem_map.1 h
    cases h
    exact ⟨node, by simp [Item.nodes], declared_value hd⟩
  case h_2 _ node =>
    obtain ⟨⟨_, _, kind⟩, hd, h⟩ := List.mem_map.1 h
    cases h
    exact ⟨node, by simp [Item.nodes], declared_value hd⟩
  case h_3 =>
    obtain ⟨s, _, h⟩ := List.mem_filterMap.1 h
    unfold importEffect? at h
    split at h <;> cases h
  case h_4 =>
    obtain ⟨s, _, h⟩ := List.mem_filterMap.1 h
    cases s with
    | named _ _ orig outer =>
      simp only [exportEffect?] at h
      split at h <;> cases h
    | «namespace» outer =>
      obtain ⟨source, _, h⟩ := Option.map_eq_some_iff.1 h
      cases h
  case h_5 => simp at h
  case h_6 expr =>
    simp only [List.mem_singleton, IndexEffect.declare.injEq, DeclKind.value.injEq] at h
    exact ⟨expr, by simp [Item.nodes], h.2.2.1 ▸ e.self_mem_preorder⟩
  case h_7 expr =>
    simp only [List.mem_singleton, IndexEffect.declare.injEq, DeclKind.value.injEq] at h
    exact ⟨expr, by simp [Item.nodes], h.2.2.1 ▸ e.self_mem_preorder⟩
  case h_8 => simp at h
  case h_9 => simp at h
  case h_10 => cases h

theorem ofItems_value {file id : Nat} {decls : List Declaration} {m : Module} {d : Declaration}
    {e : Node} (hd : (ofItems file decls m.items).1[id]? = some d) (hid : decls.length ≤ id)
    (he : d.kind = .value e) : d.file = file ∧ e ∈ m.preorder := by
  rw [ofItems_decls, List.getElem?_append_right hid] at hd
  obtain ⟨effect, heffect, hdecl⟩ := List.mem_filterMap.1 (List.mem_of_getElem? hd)
  obtain ⟨item, hitem, heffect⟩ := List.mem_flatMap.1 heffect
  cases effect with
  | declare name span kind bound exported =>
    cases hdecl
    cases he
    obtain ⟨n, hn, hmem⟩ := effects_value heffect
    exact ⟨rfl, Module.mem_preorder_of_mem (Module.mem_preorder_of_item hitem hn) hmem⟩
  | star specifier => cases hdecl
  | localExport name exported => cases hdecl

end ModuleIndex

namespace Project

/-- The projects that there are: no file is loaded at first, then files are loaded one after the
other, each from the disk as it is at the time. -/
inductive Loaded : Project → Prop
  | start (root : Location) (imports : ImportMap) : Loaded { root, imports }
  | load {p : Project} (h : Loaded p) (disk : Disk) (l : Location) :
      Loaded (p.loadAt disk l).value.1

structure Indexed (p : Project) : Prop where
  id_eq : ∀ (i : Nat) (f : SourceFile), p.files[i]? = some f → f.id = i
  value_mem : ∀ (id : Nat) (d : Declaration) (e : Node),
    p.decls[id]? = some d → d.kind = .value e →
      ∃ f, p.files[d.file]? = some f ∧ e ∈ f.module.preorder

theorem Indexed.add {p : Project} (h : p.Indexed) (l : Location) (m : Module) :
    (p.add l m).Indexed := by
  refine ⟨fun i f hf => ?_, fun id d e hd he => ?_⟩
  · simp only [Project.add, List.getElem?_append, List.getElem?_singleton] at hf
    split at hf
    · exact h.id_eq i f hf
    · split at hf
      · cases hf
        simp only
        omega
      · cases hf
  · change (ModuleIndex.ofItems p.files.length p.decls m.items).1[id]? = some d at hd
    by_cases hid : id < p.decls.length
    · rw [ModuleIndex.ofItems_decls, List.getElem?_append_left hid] at hd
      obtain ⟨f, hf, hmem⟩ := h.value_mem id d e hd he
      refine ⟨f, ?_, hmem⟩
      exact (List.getElem?_append_left (List.getElem?_eq_some_iff.1 hf).1).trans hf
    · obtain ⟨hfile, hmem⟩ := ModuleIndex.ofItems_value hd (Nat.le_of_not_lt hid) he
      rw [hfile]
      exact ⟨_, List.getElem?_concat_length, hmem⟩

theorem Indexed.loadAt {p : Project} (h : p.Indexed) (disk : Disk) (l : Location) :
    (p.loadAt disk l).value.1.Indexed := by
  unfold Project.loadAt
  split
  · exact h
  · split
    · exact h.add l _
    · exact h

theorem Loaded.indexed {p : Project} (h : p.Loaded) : p.Indexed := by
  induction h with
  | start root imports => exact ⟨by simp, by simp⟩
  | load _ disk l ih => exact ih.loadAt disk l

theorem Loaded.loadAll {p : Project} (h : p.Loaded) (disk : Disk) (ls : List Location) :
    (loadAll disk p ls).value.Loaded := by
  induction ls generalizing p with
  | nil => exact h
  | cons l rest ih => exact ih (h.load disk l)

theorem loadFrom_value (disk : Disk) (root : Location) :
    (loadFrom disk root).value =
      (loadAll disk { root, imports := (ImportMap.ofProject disk root.text).value }
        (sources disk root)).value := by
  simp only [loadFrom, Logged.value_bind, Logged.value_pure]

theorem loadFrom_loaded (disk : Disk) (root : Location) : (loadFrom disk root).value.Loaded :=
  Loaded.loadAll (.start root _) disk _

end Project

end RouteAtlas
