import Mathlib.Data.List.Basic
import RouteAtlas.Proofs.HandlerPlaces

set_option autoImplicit false

namespace RouteAtlas

namespace Script

namespace Node

mutual
/-- The names that a binding gives a value to: the name itself, or all names in a pattern. -/
def boundNames : Node → List String
  | .ident _ name => [name]
  | .pattern _ _ targets _ => boundNamesAll targets
  | _ => []

def boundNamesAll : List Node → List String
  | [] => []
  | n :: rest => boundNames n ++ boundNamesAll rest
end

def plainNames : Node → List String
  | .ident _ name => [name]
  | _ => []

end Node

/-- The item exports a value under a name at its `k`-th place: a function, a variable, or a name in a
list. What a declarator binds is a parameter. Types and names marked as types are no values. -/
inductive ExportsAt (bound : Node → List String) : Item → Nat → String → Prop
  | function {span s nameSpan : Span} {name : String} {parts : List Node} :
      ExportsAt bound (.exportDecl span (.functionDef s (.ident nameSpan name) parts)) 0 name
  | declarator {span s d : Span} {declarators types : List Node} {target : Node} {value : Option Node}
      {k : Nat} {name : String} (h : declarators[k]? = some (.declarator d target types value))
      (hname : name ∈ bound target) :
      ExportsAt bound (.exportDecl span (.varDecls s declarators)) k name
  | listed {span s : Span} {specifiers : List ExportSpecifier} {source : Option String}
      {attributes : List Node} {orig : Node} {exported : Option Node} {k : Nat} {name : String}
      (h : specifiers[k]? = some (.named s false orig exported))
      (hname : (exported.getD orig).keyName? = some name) :
      ExportsAt bound (.exportNamed span false specifiers source attributes) k name

/-- The `k`-th name of a list of values is marked as a type. -/
inductive MarkedAt : Item → Nat → String → Prop
  | listed {span s : Span} {specifiers : List ExportSpecifier} {source : Option String}
      {attributes : List Node} {orig : Node} {exported : Option Node} {k : Nat} {name : String}
      (h : specifiers[k]? = some (.named s true orig exported))
      (hname : (exported.getD orig).keyName? = some name) :
      MarkedAt (.exportNamed span false specifiers source attributes) k name

namespace Module

variable (m : Module)

/-- The module exports a value under a name at a place, which is the number of an item and the number
of the place in it. -/
def ExportsAt (bound : Node → List String) (place : Nat × Nat) (name : String) : Prop :=
  ∃ item, m.items[place.1]? = some item ∧ Script.ExportsAt bound item place.2 name

def Marks (name : String) : Prop := ∃ item ∈ m.items, ∃ k, MarkedAt item k name

end Module

end Script

namespace FileRouter

open Script

/-! ## The first entry of each verb -/

section FirstOfEach

variable {α : Type} {verb : α → Method} {seen : List Method} {as : List α}

theorem firstOfEach_map {β : Type} (g : β → α) (verb : α → Method) (seen : List Method)
    (bs : List β) :
    firstOfEach verb seen (bs.map g) = (firstOfEach (fun b => verb (g b)) seen bs).map g := by
  induction bs generalizing seen with
  | nil => rfl
  | cons b rest ih =>
    simp only [List.map_cons, firstOfEach]
    split
    · exact ih seen
    · rw [ih, List.map_cons]

theorem not_seen_of_mem_firstOfEach {a : α} (h : a ∈ firstOfEach verb seen as) :
    verb a ∉ seen := by
  induction as generalizing seen with
  | nil => cases h
  | cons b rest ih =>
    unfold firstOfEach at h
    split at h
    · exact ih h
    · rename_i hb
      rcases List.mem_cons.1 h with rfl | h
      · simpa using hb
      · exact fun hmem => ih h (List.mem_cons_of_mem _ hmem)

theorem nodup_firstOfEach (verb : α → Method) (seen : List Method) (as : List α) :
    ((firstOfEach verb seen as).map verb).Nodup := by
  induction as generalizing seen with
  | nil => exact List.nodup_nil
  | cons a rest ih =>
    unfold firstOfEach
    split
    · exact ih seen
    · refine List.nodup_cons.2 ⟨fun hmem => ?_, ih _⟩
      obtain ⟨b, hb, heq⟩ := List.mem_map.1 hmem
      exact not_seen_of_mem_firstOfEach hb (heq ▸ List.mem_cons_self)

theorem mem_firstOfEach_iff {v : Method} :
    v ∈ (firstOfEach verb seen as).map verb ↔ v ∉ seen ∧ v ∈ as.map verb := by
  induction as generalizing seen with
  | nil => simp [firstOfEach]
  | cons a rest ih =>
    unfold firstOfEach
    split
    · rename_i ha
      have ha : verb a ∈ seen := by simpa using ha
      rw [ih, List.map_cons, List.mem_cons]
      refine and_congr_right fun hv => ⟨.inr, fun h => h.resolve_left ?_⟩
      rintro rfl
      exact hv ha
    · rename_i ha
      have ha : verb a ∉ seen := by simpa using ha
      rw [List.map_cons, List.mem_cons, ih, List.map_cons, List.mem_cons, List.mem_cons, not_or]
      by_cases hv : v = verb a
      · subst hv
        simp [ha]
      · simp [hv]

/-- An entry that is kept stands before all entries of the verbs that are kept behind it, so they
stand in the order of their first entries. -/
theorem firstOfEach_pairwise {r : α → α → Prop} (h : as.Pairwise r) :
    (firstOfEach verb seen as).Pairwise fun a b => ∀ c ∈ as, verb c = verb b → r a c := by
  induction as generalizing seen with
  | nil => exact .nil
  | cons a rest ih =>
    obtain ⟨ha, hrest⟩ := List.pairwise_cons.1 h
    -- a verb that is kept behind `a` is none of those seen, so none of its entries is `a`
    have hbehind {seen : List Method} (hseen : verb a ∈ seen) :
        (firstOfEach verb seen rest).Pairwise fun b b' =>
          ∀ c ∈ a :: rest, verb c = verb b' → r b c := by
      refine (ih hrest).imp_of_mem fun {b b'} _ hb' hlater c hc heq => ?_
      rcases List.mem_cons.1 hc with rfl | hc
      · exact absurd (heq ▸ hseen) (not_seen_of_mem_firstOfEach hb')
      · exact hlater c hc heq
    unfold firstOfEach
    split
    · rename_i hseen
      exact hbehind (by simpa using hseen)
    · refine List.pairwise_cons.2 ⟨fun b hb c hc heq => ?_, hbehind List.mem_cons_self⟩
      rcases List.mem_cons.1 hc with rfl | hc
      · exact absurd (heq ▸ List.mem_cons_self) (not_seen_of_mem_firstOfEach hb)
      · exact ha c hc

end FirstOfEach

/-! ## Places -/

/-- The names at the places of an item, where they can be verbs. -/
def exportSlots : Item → List (Option (String × Span))
  | .exportDecl span (.functionDef _ (.ident _ name) _) => [some (name, span)]
  | .exportDecl _ (.varDecls _ declarators) =>
    declarators.map fun
      | .declarator span (.ident _ name) _ _ => some (name, span)
      | _ => none
  | .exportNamed _ false specifiers _ _ => specifiers.map exportedName?
  | _ => []

def slotVerb? (slot : Option (String × Span)) : Option (Method × Span) := do
  let (name, span) ← slot
  return (← Method.ofName? name, span)

theorem slotVerb?_some (name : String) (span : Span) :
    slotVerb? (some (name, span)) = (Method.ofName? name).map fun m => (m, span) := by
  cases h : Method.ofName? name <;> simp [slotVerb?, h]

theorem slotVerb?_eq_some_iff {slot : Option (String × Span)} {v : Method} {span : Span} :
    slotVerb? slot = some (v, span) ↔ slot = some (v.name, span) := by
  cases slot with
  | none => simp [slotVerb?]
  | some entry =>
    obtain ⟨name, span'⟩ := entry
    simp [slotVerb?_some, Option.map_eq_some_iff, Method.ofName?_eq_some_iff, eq_comm (b := name)]

theorem itemVerbs_eq (item : Item) : itemVerbs item = (exportSlots item).filterMap slotVerb? := by
  cases item with
  | exportDecl span decl =>
    cases decl with
    | functionDef s name parts =>
      cases name with
      | ident nameSpan name =>
        simp only [itemVerbs, declaredVerbs, exportSlots, List.filterMap_cons, slotVerb?_some]
        cases Method.ofName? name <;> rfl
      | _ => rfl
    | varDecls s declarators =>
      simp only [itemVerbs, declaredVerbs, exportSlots, List.filterMap_map]
      refine List.filterMap_congr fun d _ => ?_
      cases d with
      | declarator declSpan target types value =>
        cases target with
        | ident nameSpan name => exact (slotVerb?_some name declSpan).symm
        | _ => rfl
      | _ => rfl
    | _ => rfl
  | exportNamed span typeOnly specifiers source attributes =>
    cases typeOnly with
    | true => rfl
    | false =>
      simp only [itemVerbs, exportSlots, List.filterMap_map]
      rfl
  | _ => rfl

/-- At a place with a name the item exports that name, or the name is marked as a type. -/
theorem exportSlots_iff {item : Item} {k : Nat} {name : String} :
    (∃ span, (exportSlots item)[k]? = some (some (name, span))) ↔
      ExportsAt Node.plainNames item k name ∨ MarkedAt item k name := by
  constructor
  · rintro ⟨span, h⟩
    unfold exportSlots at h
    split at h
    · cases k with
      | zero =>
        cases h
        exact .inl .function
      | succ k => cases h
    · rw [List.getElem?_map, Option.map_eq_some_iff] at h
      obtain ⟨d, hd, h⟩ := h
      split at h
      · cases h
        exact .inl (.declarator hd List.mem_cons_self)
      · cases h
    · rw [List.getElem?_map, Option.map_eq_some_iff] at h
      obtain ⟨s, hs, h⟩ := h
      cases s with
      | named specifierSpan marked orig exported =>
        obtain ⟨name, hname, heq⟩ := Option.map_eq_some_iff.1 h
        cases heq
        cases marked with
        | false => exact .inl (.listed hs hname)
        | true => exact .inr (.listed hs hname)
      | «namespace» name => cases h
    · cases h
  · rintro (h | h)
    · cases h with
      | function => exact ⟨_, rfl⟩
      | @declarator _ _ d _ _ target _ _ _ h hname =>
        cases target with
        | ident nameSpan text =>
          cases List.mem_singleton.1 hname
          exact ⟨d, by simp [exportSlots, h]⟩
        | _ => cases hname
      | @listed _ s _ _ _ _ _ _ _ h hname => exact ⟨s, by simp [exportSlots, h, exportedName?, hname]⟩
    · cases h with
      | @listed _ s _ _ _ _ _ _ _ h hname => exact ⟨s, by simp [exportSlots, h, exportedName?, hname]⟩

def Before (place place' : Nat × Nat) : Prop :=
  place.1 < place'.1 ∨ place.1 = place'.1 ∧ place.2 < place'.2

/-- The verbs that are exported, repeated ones too, each at its place. -/
def verbPlaces (m : Module) : List ((Nat × Nat) × (Method × Span)) :=
  m.items.zipIdx.flatMap fun (item, i) =>
    (exportSlots item).zipIdx.filterMap fun (slot, k) =>
      (slotVerb? slot).map fun verb => ((i, k), verb)

theorem verbPlaces_map_snd (m : Module) : (verbPlaces m).map (·.2) = m.items.flatMap itemVerbs := by
  have hitem (item : Item) (i : Nat) :
      ((exportSlots item).zipIdx.filterMap fun (slot, k) =>
        (slotVerb? slot).map fun verb => ((i, k), verb)).map (·.2) = itemVerbs item := by
    rw [itemVerbs_eq, List.map_filterMap]
    conv_rhs => rw [← List.zipIdx_map_fst 0 (exportSlots item), List.filterMap_map]
    refine List.filterMap_congr fun ⟨slot, k⟩ _ => ?_
    simp [Function.comp_def]
  rw [verbPlaces, List.map_flatMap]
  conv_rhs => rw [← List.zipIdx_map_fst 0 m.items, List.flatMap_map]
  exact List.flatMap_congr fun ⟨item, i⟩ _ => hitem item i

theorem mem_verbPlaces_iff {m : Module} {i k : Nat} {v : Method} {span : Span} :
    ((i, k), (v, span)) ∈ verbPlaces m ↔
      ∃ item, m.items[i]? = some item ∧ (exportSlots item)[k]? = some (some (v.name, span)) := by
  simp only [verbPlaces, List.mem_flatMap, List.mem_filterMap, Prod.exists,
    List.mem_zipIdx_iff_getElem?, Option.map_eq_some_iff, Prod.mk.injEq, slotVerb?_eq_some_iff]
  constructor
  · rintro ⟨item, i, hitem, slot, k, hslot, v, span, rfl, ⟨rfl, rfl⟩, rfl, rfl⟩
    exact ⟨item, hitem, hslot⟩
  · rintro ⟨item, hitem, hslot⟩
    exact ⟨item, i, hitem, _, k, hslot, v, span, rfl, ⟨rfl, rfl⟩, rfl, rfl⟩

theorem exists_mem_verbPlaces_iff {m : Module} {place : Nat × Nat} {v : Method} :
    (∃ span, (place, (v, span)) ∈ verbPlaces m) ↔
      m.ExportsAt Node.plainNames place v.name ∨
        ∃ item, m.items[place.1]? = some item ∧ MarkedAt item place.2 v.name := by
  obtain ⟨i, k⟩ := place
  simp only [mem_verbPlaces_iff, Module.ExportsAt]
  constructor
  · rintro ⟨span, item, hitem, hslot⟩
    rcases exportSlots_iff.1 ⟨span, hslot⟩ with h | h
    · exact .inl ⟨item, hitem, h⟩
    · exact .inr ⟨item, hitem, h⟩
  · rintro (⟨item, hitem, h⟩ | ⟨item, hitem, h⟩)
    · obtain ⟨span, hslot⟩ := exportSlots_iff.2 (.inl h)
      exact ⟨span, item, hitem, hslot⟩
    · obtain ⟨span, hslot⟩ := exportSlots_iff.2 (.inr h)
      exact ⟨span, item, hitem, hslot⟩

theorem verbPlaces_pairwise (m : Module) :
    (verbPlaces m).Pairwise fun a b => Before a.1 b.1 := by
  rw [verbPlaces, List.pairwise_flatMap]
  refine ⟨fun ⟨item, i⟩ _ => ?_, (zipIdx_pairwise_lt _).imp fun {a b} hlt x hx y hy => ?_⟩
  · rw [List.pairwise_filterMap]
    refine (zipIdx_pairwise_lt _).imp fun {a b} hlt x hx y hy => ?_
    obtain ⟨_, _, rfl⟩ := Option.map_eq_some_iff.1 hx
    obtain ⟨_, _, rfl⟩ := Option.map_eq_some_iff.1 hy
    exact .inr ⟨rfl, hlt⟩
  · obtain ⟨_, _, hx⟩ := List.mem_filterMap.1 hx
    obtain ⟨_, _, hy⟩ := List.mem_filterMap.1 hy
    obtain ⟨_, _, rfl⟩ := Option.map_eq_some_iff.1 hx
    obtain ⟨_, _, rfl⟩ := Option.map_eq_some_iff.1 hy
    exact .inl hlt

def verbs (m : Module) : List Method := (exportedVerbs m).map (·.1)

theorem exportedVerbs_eq (m : Module) :
    exportedVerbs m = (firstOfEach (fun a => a.2.1) [] (verbPlaces m)).map (·.2) := by
  rw [exportedVerbs, ← verbPlaces_map_snd, firstOfEach_map]

theorem mem_verbs_iff {m : Module} {v : Method} :
    v ∈ verbs m ↔ ∃ place span, (place, (v, span)) ∈ verbPlaces m := by
  rw [verbs, exportedVerbs, mem_firstOfEach_iff, ← verbPlaces_map_snd]
  simp

/-- The verbs of a module are exactly those that it exports as functions, as variables declared by
their name, and in lists, each once and in the order of the first places. A name that is marked as a
type in a list of values is left open. -/
theorem exported_verbs_exact (m : Module) :
    (verbs m).Nodup ∧
    (∀ v : Method, ¬m.Marks v.name →
      (v ∈ verbs m ↔ ∃ place, m.ExportsAt Node.plainNames place v.name)) ∧
    (verbs m).Pairwise fun v w => ¬m.Marks v.name → ¬m.Marks w.name →
      ∃ place, m.ExportsAt Node.plainNames place v.name ∧
        ∀ later, m.ExportsAt Node.plainNames later w.name → Before place later := by
  have hplace {v : Method} (hv : ¬m.Marks v.name) {place : Nat × Nat} :
      (∃ span, (place, (v, span)) ∈ verbPlaces m) ↔
        m.ExportsAt Node.plainNames place v.name := by
    rw [exists_mem_verbPlaces_iff, or_iff_left]
    rintro ⟨item, hitem, hmarked⟩
    exact hv ⟨item, List.mem_of_getElem? hitem, place.2, hmarked⟩
  refine ⟨nodup_firstOfEach _ _ _, fun v hv => ?_, ?_⟩
  · rw [mem_verbs_iff]
    exact exists_congr fun place => hplace hv
  · rw [verbs, exportedVerbs_eq, List.map_map, List.pairwise_map]
    refine (firstOfEach_pairwise (verbPlaces_pairwise m)).imp_of_mem ?_
    rintro ⟨place, v, span⟩ ⟨_, w, _⟩ hmem _ hbefore hv hw
    have hmem : (place, (v, span)) ∈ verbPlaces m := firstOfEach_subset _ _ _ hmem
    refine ⟨place, (hplace hv).1 ⟨span, hmem⟩, fun later hlater => ?_⟩
    obtain ⟨span', hlater⟩ := (hplace hw).2 hlater
    exact hbefore _ hlater rfl

def mixedExports : Module where
  items :=
    [.exportNamed ⟨0, 33⟩ false
      [.named ⟨9, 17⟩ false (.ident ⟨9, 10⟩ "h") (some (.ident ⟨14, 17⟩ "PUT")),
        .named ⟨19, 28⟩ true (.ident ⟨24, 28⟩ "POST") none] none [],
      .exportDecl ⟨34, 57⟩ (.functionDef ⟨41, 57⟩ (.ident ⟨50, 53⟩ "GET") []),
      .exportDecl ⟨58, 79⟩ (.varDecls ⟨65, 79⟩
        [.declarator ⟨71, 78⟩ (.ident ⟨71, 74⟩ "PUT") [] (some (.ident ⟨77, 78⟩ "h"))])]
  lineStarts := [0]

theorem mixed_exports_in_order :
    ¬mixedExports.Marks "PUT" ∧ ¬mixedExports.Marks "GET" ∧
      verbs mixedExports = [.put, .post, .get] ∧
      ∃ place, mixedExports.ExportsAt Node.plainNames place "PUT" ∧
        ∀ later, mixedExports.ExportsAt Node.plainNames later "GET" → Before place later := by
  have hmarks : ∀ name, mixedExports.Marks name → name = "POST" := by
    rintro name ⟨item, hitem, k, hmarked⟩
    cases hmarked with
    | listed h hname =>
      simp only [mixedExports, List.mem_cons, Item.exportNamed.injEq, List.not_mem_nil, reduceCtorEq,
        or_false] at hitem
      obtain ⟨_, _, rfl, _⟩ := hitem
      have hspecifier := List.mem_of_getElem? h
      simp only [List.mem_cons, ExportSpecifier.named.injEq, List.not_mem_nil, reduceCtorEq,
        or_false, false_and, and_false, false_or, true_and] at hspecifier
      obtain ⟨_, rfl, rfl⟩ := hspecifier
      exact (Option.some.inj hname).symm
  have hput : ¬mixedExports.Marks "PUT" := fun h => absurd (hmarks _ h) (by decide)
  have hget : ¬mixedExports.Marks "GET" := fun h => absurd (hmarks _ h) (by decide)
  have hverbs : verbs mixedExports = [.put, .post, .get] := by decide
  obtain ⟨_, _, horder⟩ := exported_verbs_exact mixedExports
  rw [hverbs] at horder
  exact ⟨hput, hget, hverbs, (List.pairwise_cons.1 horder).1 .get (by simp) hput hget⟩

def bindsVariables (names : List String) : Item → Bool
  | .exportDecl _ (.varDecls _ [.declarator _ target _ _]) => target.boundNames == names
  | _ => false

theorem exportsAt_of_bindsVariables {names : List String} {item : Item}
    (h : bindsVariables names item = true) {name : String} (hname : name ∈ names) :
    Script.ExportsAt Node.boundNames item 0 name := by
  unfold bindsVariables at h
  split at h
  · rw [← eq_of_beq h] at hname
    exact .declarator rfl hname
  · cases h

/-- Verbs that a pattern takes out of one value are exported, but they are not among the verbs of
the module. -/
theorem destructured_verbs_left_out :
    ∃ m, parseModule? (Dialect.ofExtension (some "ts"))
        "export const \x7b GET, POST \x7d = handlers" = some m ∧
      ∀ v ∈ [Method.get, Method.post],
        m.ExportsAt Node.boundNames (0, 0) v.name ∧ v ∉ verbs m := by
  have hmodule : (parseModule? (Dialect.ofExtension (some "ts"))
      "export const \x7b GET, POST \x7d = handlers").map (fun m =>
        ((m.items[0]?).map (bindsVariables ["GET", "POST"]), verbs m)) = some (some true, []) := by
    decide +kernel
  obtain ⟨m, hm, hview⟩ := Option.map_eq_some_iff.1 hmodule
  obtain ⟨hitem, hverbs⟩ := Prod.mk.inj hview
  obtain ⟨item, hitem, hbinds⟩ := Option.map_eq_some_iff.1 hitem
  refine ⟨m, hm, fun v hv => ⟨⟨item, hitem, exportsAt_of_bindsVariables hbinds ?_⟩, by simp [hverbs]⟩⟩
  exact List.mem_map_of_mem (f := Method.name) hv

end FileRouter

end RouteAtlas
