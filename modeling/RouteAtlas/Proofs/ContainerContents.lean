import RouteAtlas.Proofs.QuietWalks
import RouteAtlas.Reference.Query

set_option autoImplicit false

/-!
# What objects and arrays hold

An object holds a list of entries in source order, where a spread counts as the entries of the
object it stands for, and the last entry for a key is the one that counts. An array holds a list of
objects in source order, where a spread counts as the objects of the array it stands for, and each
literal is listed where it comes first. Both lists are defined here without the search for a key and
without the notes on what has been listed: each part of a literal is looked at in the state in which
the literal is opened.
-/
namespace RouteAtlas.Reference

open Script Tracing

namespace Walk

/-- A literal that is not opened: the walk is too deep, or it is in the middle of that literal. -/
def Bars (w : Walk) (l : Literal) : Prop := maxDepth ≤ w.depth ∨ l ∈ w.containers

instance (w : Walk) (l : Literal) : Decidable (w.Bars l) := inferInstanceAs (Decidable (_ ∨ _))

def inside (w : Walk) (l : Literal) : Walk :=
  { w with depth := w.depth + 1, containers := l :: w.containers }

theorem bars_iff (w : Walk) (l : Literal) :
    (decide (maxDepth ≤ w.depth) || w.containers.contains l) = true ↔ w.Bars l := by
  simp [Bars]

theorem inside_depth_lt {w : Walk} {l : Literal} (h : ¬w.Bars l) :
    maxDepth - (w.inside l).depth < maxDepth - w.depth := by
  have hdepth : ¬maxDepth ≤ w.depth := fun hle => h (.inl hle)
  simp only [inside]
  omega

end Walk

theorem trace_follow (ws : Workspace) (q : Question) (w : Walk) :
    trace ws q w = follow ws (trace ws) q w :=
  congrFun (congrFun (trace_eq_follow ws) q) w

/-! ## Objects -/

abbrev ObjectEntry := String × Property

section Entries

variable (ws : Workspace)

/-- The entries that one part of an object literal gives, when `inner` tells those of the objects
that are spread in it. -/
def partEntries (w : Walk) (inner : ObjectRef → List ObjectEntry) (o : Origin) :
    Node → List ObjectEntry
  | .keyValue _ key value => key.keyName?.toList.map fun name => (name, ⟨o, .expr value⟩)
  | .shorthand _ name => [(name, ⟨o, .shorthand name⟩)]
  | .spread _ e =>
    match answer ws w (.value o e) with
    | some (.object base) => inner base
    | _ => []
  | _ => []

/-- All entries of an object in source order, whatever their keys. -/
def entries (w : Walk) (obj : ObjectRef) : List ObjectEntry :=
  if w.Bars obj.literal then []
  else
    obj.properties.flatMap
      (partEntries ws (w.inside obj.literal) (fun base => entries (w.inside obj.literal) base)
        obj.origin)
termination_by maxDepth - w.depth
decreasing_by exact Walk.inside_depth_lt ‹_›

end Entries

def lastWithKey? (key : String) (es : List ObjectEntry) : Option Property :=
  (es.findRev? (·.1 == key)).map (·.2)

theorem lastWithKey?_singleton (key name : String) (p : Property) :
    lastWithKey? key [(name, p)] = if name = key then some p else none := by
  by_cases h : name = key <;> simp [lastWithKey?, List.findRev?, h]

theorem lastWithKey?_flatMap {α : Type} (key : String) (f : α → List ObjectEntry) (as : List α) :
    lastWithKey? key (as.flatMap f) = as.reverse.findSome? fun a => lastWithKey? key (f a) := by
  simp only [lastWithKey?, List.findRev?_eq_find?_reverse, List.reverse_flatMap, List.find?_flatMap,
    List.map_findSome?]
  rfl

theorem lastWithKey?_eq_some_iff {key : String} {es : List ObjectEntry} {p : Property} :
    lastWithKey? key es = some p ↔
      ∃ before after, es = before ++ (key, p) :: after ∧ ∀ e ∈ after, e.1 ≠ key := by
  rw [lastWithKey?, List.findRev?_eq_find?_reverse, Option.map_eq_some_iff]
  constructor
  · rintro ⟨⟨name, _⟩, hfind, rfl⟩
    obtain ⟨hname, later, earlier, hes, hlater⟩ := List.find?_eq_some_iff_append.1 hfind
    obtain rfl : name = key := eq_of_beq hname
    refine ⟨earlier.reverse, later.reverse, ?_, fun e he => ?_⟩
    · rw [← es.reverse_reverse, hes]
      simp
    · simpa using hlater e (List.mem_reverse.1 he)
  · rintro ⟨before, after, rfl, hafter⟩
    refine ⟨(key, p), List.find?_eq_some_iff_append.2 ⟨by simp, after.reverse, before.reverse, ?_⟩,
      rfl⟩
    exact ⟨by simp, fun e he => by simpa using hafter e (List.mem_reverse.1 he)⟩

theorem lastWithKey?_eq_none_iff {key : String} {es : List ObjectEntry} :
    lastWithKey? key es = none ↔ ∀ e ∈ es, e.1 ≠ key := by
  simp [lastWithKey?, List.findRev?_eq_find?_reverse]

section Lookup

variable {ws : Workspace}

theorem answer_lookup (w : Walk) (obj : ObjectRef) (key : String) :
    answer ws w (.lookup obj key) =
      if w.Bars obj.literal then none
      else
        obj.properties.reverse.findSome? fun p =>
          (entryProperty (trace ws) obj.origin key p (w.inside obj.literal)).value.1 := by
  rw [answer, trace_follow]
  change ((if decide (maxDepth ≤ w.depth) || w.containers.contains obj.literal then pure none
    else opening obj.literal <| deeper <| firstFound (entryProperty (trace ws) obj.origin key)
      obj.properties.reverse : Tracing (Option Property)) w).value.1 = _
  by_cases hbars : w.Bars obj.literal
  · rw [if_pos ((w.bars_iff _).2 hbars), if_pos hbars]
    rfl
  · rw [if_neg (mt (w.bars_iff _).1 hbars), if_neg hbars]
    exact Quiet.firstFound_value
      (fun p _ => entryProperty_quiet (trace_quiet ws) obj.origin key p) (w.inside obj.literal)

/-- A part of an object gives the last of its own entries for a key, if the objects that are spread
in it do so. -/
theorem entryProperty_value {w : Walk} {inner : ObjectRef → List ObjectEntry} (o : Origin)
    {key : String}
    (hinner : ∀ base, answer ws w (.lookup base key) = lastWithKey? key (inner base)) (p : Node) :
    (entryProperty (trace ws) o key p w).value.1 =
      lastWithKey? key (partEntries ws w inner o p) := by
  cases p with
  | keyValue span k v =>
    simp only [entryProperty, partEntries]
    cases k.keyName? with
    | none => rfl
    | some name =>
      rw [Option.toList_some, List.map_singleton, lastWithKey?_singleton]
      simp only [Option.some.injEq]
      rfl
  | shorthand span name =>
    simp only [entryProperty, partEntries]
    rw [lastWithKey?_singleton]
    rfl
  | spread span e =>
    simp only [entryProperty, partEntries]
    rw [Quiet.bind_value (trace_quiet ws (.value o e) trivial)]
    change ((match answer ws w (.value o e) with
      | some (.object base) => trace ws (.lookup base key)
      | _ => pure none : Tracing (Option Property)) w).value.1 = _
    cases answer ws w (.value o e) with
    | none => rfl
    | some v =>
      cases v with
      | object base => exact hinner base
      | _ => rfl
  | _ => rfl

theorem answer_lookup_eq_lastWithKey? (w : Walk) (obj : ObjectRef) (key : String) :
    answer ws w (.lookup obj key) = lastWithKey? key (entries ws w obj) := by
  -- the objects spread in this one are looked at one level deeper
  induction hn : maxDepth - w.depth using Nat.strong_induction_on generalizing w obj with
  | h n ih =>
    rw [answer_lookup, entries]
    by_cases hbars : w.Bars obj.literal
    · rw [if_pos hbars, if_pos hbars]
      rfl
    · rw [if_neg hbars, if_neg hbars, lastWithKey?_flatMap]
      have hdeeper := Walk.inside_depth_lt hbars
      congr 1
      funext p
      exact entryProperty_value obj.origin (fun base => ih _ (hn ▸ hdeeper) _ base rfl) p

/-- Later entries win, across spreads: a lookup gives the last entry that the object has for the
key, with the place where that entry is written, and nothing exactly when the object has no entry
for the key. -/
theorem lookup_finds_last_entry (ws : Workspace) (w : Walk) (obj : ObjectRef) (key : String) :
    (∀ p, (trace ws (.lookup obj key) w).value.1 = some p ↔
      ∃ before after, entries ws w obj = before ++ (key, p) :: after ∧ ∀ e ∈ after, e.1 ≠ key) ∧
    ((trace ws (.lookup obj key) w).value.1 = none ↔ ∀ e ∈ entries ws w obj, e.1 ≠ key) ∧
    (property ws obj key).value = lastWithKey? key (entries ws {} obj) := by
  have hlookup : (trace ws (.lookup obj key) w).value.1 = lastWithKey? key (entries ws w obj) :=
    answer_lookup_eq_lastWithKey? w obj key
  refine ⟨fun p => ?_, ?_, answer_lookup_eq_lastWithKey? {} obj key⟩
  · rw [hlookup]
    exact lastWithKey?_eq_some_iff
  · rw [hlookup]
    exact lastWithKey?_eq_none_iff

end Lookup

/-! ## Arrays -/

section Flattening

variable (ws : Workspace)

def elementContents (w : Walk) (inner : ArrayRef → List ObjectRef) (o : Origin) :
    Node → List ObjectRef
  | .hole _ => []
  | .spread _ e =>
    match answer ws w (.value o e) with
    | some (.array base) => inner base
    | _ => []
  | e =>
    match answer ws w (.value o e) with
    | some (.object obj) => [obj]
    | _ => []

/-- All objects in an array in source order, as often as they occur. -/
def flattening (w : Walk) (arr : ArrayRef) : List ObjectRef :=
  if w.Bars arr.literal then []
  else
    arr.elements.flatMap
      (elementContents ws (w.inside arr.literal)
        (fun base => flattening (w.inside arr.literal) base) arr.origin)
termination_by maxDepth - w.depth
decreasing_by exact Walk.inside_depth_lt ‹_›

end Flattening

def ObjectRef.sameLiteral (a b : ObjectRef) : Bool := a.literal == b.literal

def unlisted : List Literal → List ObjectRef → List ObjectRef
  | _, [] => []
  | seen, obj :: rest =>
    if obj.literal ∈ seen then unlisted seen rest else obj :: unlisted (obj.literal :: seen) rest

def listedAfter (seen : List Literal) (objs : List ObjectRef) : List Literal :=
  objs.foldl (fun seen obj => seen.insert obj.literal) seen

theorem listedAfter_append (seen : List Literal) (as bs : List ObjectRef) :
    listedAfter seen (as ++ bs) = listedAfter (listedAfter seen as) bs :=
  List.foldl_append

theorem mem_listedAfter {seen : List Literal} {objs : List ObjectRef} {l : Literal} :
    l ∈ listedAfter seen objs ↔ l ∈ seen ∨ ∃ obj ∈ objs, obj.literal = l := by
  induction objs generalizing seen with
  | nil => simp [listedAfter]
  | cons obj rest ih =>
    change l ∈ listedAfter (seen.insert obj.literal) rest ↔ _
    rw [ih]
    simp only [List.mem_insert_iff, List.mem_cons, exists_eq_or_imp, eq_comm (a := l)]
    tauto

theorem unlisted_append (seen : List Literal) (as bs : List ObjectRef) :
    unlisted seen (as ++ bs) = unlisted seen as ++ unlisted (listedAfter seen as) bs := by
  induction as generalizing seen with
  | nil => rfl
  | cons obj rest ih =>
    have hlisted : listedAfter seen (obj :: rest) =
        listedAfter (seen.insert obj.literal) rest := rfl
    rw [List.cons_append, unlisted, unlisted, hlisted]
    by_cases hobj : obj.literal ∈ seen
    · rw [if_pos hobj, if_pos hobj, ih, List.insert_of_mem hobj]
    · rw [if_neg hobj, if_neg hobj, ih, List.insert_of_not_mem hobj, List.cons_append]

theorem unlisted_eq_nil {seen : List Literal} {objs : List ObjectRef}
    (h : ∀ obj ∈ objs, obj.literal ∈ seen) : unlisted seen objs = [] := by
  induction objs with
  | nil => rfl
  | cons obj rest ih =>
    rw [unlisted, if_pos (h obj (by simp))]
    exact ih fun obj' hobj' => h obj' (by simp [hobj'])

theorem listedAfter_eq_self {seen : List Literal} {objs : List ObjectRef}
    (h : ∀ obj ∈ objs, obj.literal ∈ seen) : listedAfter seen objs = seen := by
  induction objs with
  | nil => rfl
  | cons obj rest ih =>
    change listedAfter (seen.insert obj.literal) rest = seen
    rw [List.insert_of_mem (h obj (by simp))]
    exact ih fun obj' hobj' => h obj' (by simp [hobj'])

theorem unlisted_append_of_listed {seen : List Literal} {as bs cs : List ObjectRef}
    (h : ∀ obj ∈ bs, obj.literal ∈ listedAfter seen as) :
    unlisted seen (as ++ (bs ++ cs)) = unlisted seen (as ++ cs) := by
  rw [unlisted_append, unlisted_append, unlisted_eq_nil h, listedAfter_eq_self h, List.nil_append,
    ← unlisted_append]

theorem unlisted_eq_eraseDupsBy (seen : List Literal) (objs : List ObjectRef) :
    unlisted seen objs =
      (objs.filter fun obj => !seen.contains obj.literal).eraseDupsBy ObjectRef.sameLiteral := by
  induction objs generalizing seen with
  | nil => rfl
  | cons obj rest ih =>
    rw [unlisted]
    by_cases hobj : obj.literal ∈ seen
    · rw [if_pos hobj, ih, List.filter_cons_of_neg (by simpa using hobj)]
    · rw [if_neg hobj, ih, List.filter_cons_of_pos (by simpa using hobj), List.eraseDupsBy_cons,
        List.filter_filter]
      congr 3
      funext b
      simp [ObjectRef.sameLiteral]

/-- From the state `w`, whatever has been listed, a step lists those of the objects that are new. -/
def ListsNew (w : Walk) (m : Tracing (List ObjectRef)) (objs : List ObjectRef) : Prop :=
  ∀ seen, (m { w with seen := seen }).value =
    (unlisted seen objs, { w with seen := listedAfter seen objs })

namespace ListsNew

variable {w : Walk} {α : Type}

theorem nil : ListsNew w (pure []) [] := fun _ => rfl

theorem skipped (ws : Workspace) (o : Origin) : ListsNew w (skipped ws o) [] := fun _ => rfl

theorem listed (obj : ObjectRef) : ListsNew w (listed obj) [obj] := by
  intro seen
  change ((if seen.contains obj.literal then pure []
    else do
      modify fun w => { w with seen := obj.literal :: w.seen }
      return [obj] : Tracing (List ObjectRef)) { w with seen := seen }).value = _
  have hlisted : listedAfter seen [obj] = seen.insert obj.literal := rfl
  rw [hlisted, unlisted]
  by_cases hobj : obj.literal ∈ seen
  · rw [if_pos (by simpa using hobj), if_pos hobj, List.insert_of_mem hobj]
    rfl
  · rw [if_neg (by simpa using hobj), if_neg hobj, List.insert_of_not_mem hobj]
    rfl

theorem bind {m : Tracing α} {f : α → Tracing (List ObjectRef)} {objs : List ObjectRef}
    (hm : Quiet m) (hf : ListsNew w (f (m w).value.1) objs) : ListsNew w (m >>= f) objs := by
  intro seen
  rw [hm.bind_value, hm w seen]
  exact hf seen

theorem gather {step : α → Tracing (List ObjectRef)} {objs : α → List ObjectRef} (as : List α)
    (h : ∀ a, ListsNew w (step a) (objs a)) : ListsNew w (gather step as) (as.flatMap objs) := by
  induction as with
  | nil => exact nil
  | cons a rest ih =>
    intro seen
    have hvalue : (Tracing.gather step (a :: rest) { w with seen := seen }).value =
        ((step a { w with seen := seen }).value.1 ++
            (Tracing.gather step rest (step a { w with seen := seen }).value.2).value.1,
          (Tracing.gather step rest (step a { w with seen := seen }).value.2).value.2) := rfl
    -- the rest starts from what the first item has listed
    rw [hvalue, h a seen, ih (listedAfter seen (objs a)), List.flatMap_cons, unlisted_append,
      listedAfter_append]

theorem opening {l : Literal} {m : Tracing (List ObjectRef)} {objs : List ObjectRef}
    (h : ListsNew (w.inside l) m objs) : ListsNew w (opening l (deeper m)) objs := by
  intro seen
  have hvalue : (Tracing.opening l (deeper m) { w with seen := seen }).value =
      ((m { w.inside l with seen := seen }).value.1,
        { (m { w.inside l with seen := seen }).value.2 with
          depth := (m { w.inside l with seen := seen }).value.2.depth - 1
          containers := (m { w.inside l with seen := seen }).value.2.containers.erase l }) := rfl
  rw [hvalue, h seen]
  simp [Walk.inside]

end ListsNew

section Elements

variable {ws : Workspace}

theorem elementObjects_listsNew {w : Walk} {inner : ArrayRef → List ObjectRef} (o : Origin)
    (hinner : ∀ base, ListsNew w (trace ws (.elements base)) (inner base)) (e : Node) :
    ListsNew w (elementObjects ws (trace ws) o e) (elementContents ws w inner o e) := by
  unfold elementObjects
  split
  · exact .nil
  · rename_i span e
    refine .bind (trace_quiet ws (.value o e) trivial) ?_
    simp only [elementContents, answer]
    cases (trace ws (.value o e) w).value.1 with
    | none => exact .skipped ws o
    | some v =>
      cases v with
      | array base => exact hinner base
      | _ => exact .skipped ws o
  · rename_i hhole hspread
    refine .bind (trace_quiet ws (.value o e) trivial) ?_
    rw [elementContents.eq_3 ws w inner o e hhole hspread, answer]
    cases (trace ws (.value o e) w).value.1 with
    | none => exact .skipped ws o
    | some v =>
      cases v with
      | object obj => exact .listed obj
      | _ => exact .skipped ws o

theorem trace_elements_listsNew (w : Walk) (arr : ArrayRef) :
    ListsNew w (trace ws (.elements arr)) (flattening ws w arr) := by
  -- the arrays spread in this one are looked at one level deeper
  induction hn : maxDepth - w.depth using Nat.strong_induction_on generalizing w arr with
  | h n ih =>
    intro seen
    rw [trace_follow, flattening]
    change ((if decide (maxDepth ≤ w.depth) || w.containers.contains arr.literal then do
        debug "skipping self-referential array spread"
        return []
      else opening arr.literal <| deeper <| gather (elementObjects ws (trace ws) arr.origin)
        arr.elements : Tracing (List ObjectRef)) { w with seen := seen }).value = _
    by_cases hbars : w.Bars arr.literal
    · rw [if_pos ((w.bars_iff _).2 hbars), if_pos hbars]
      rfl
    · rw [if_neg (mt (w.bars_iff _).1 hbars), if_neg hbars]
      have hdeeper := Walk.inside_depth_lt hbars
      refine ListsNew.opening (.gather arr.elements fun e => ?_) seen
      exact elementObjects_listsNew arr.origin (fun base => ih _ (hn ▸ hdeeper) _ base rfl) e

theorem trace_elements_value (w : Walk) (arr : ArrayRef) :
    (trace ws (.elements arr) { w with seen := [] }).value.1 =
      (flattening ws w arr).eraseDupsBy ObjectRef.sameLiteral := by
  rw [trace_elements_listsNew w arr [], unlisted_eq_eraseDupsBy]
  simp

/-- The objects in an array that is the value of an expression, each where it comes first. -/
def contents (ws : Workspace) : Option Value → List ObjectRef
  | some (.array arr) => (flattening ws {} arr).eraseDupsBy ObjectRef.sameLiteral
  | _ => []

theorem resolveArray_value (ws : Workspace) (o : Origin) (e : Node) :
    (resolveArray ws o e).value = contents ws (answer ws {} (.value o e)) := by
  change ((trace ws (.value o e) >>= _) {}).value.1 = _
  rw [Quiet.bind_value (trace_quiet ws (.value o e) trivial), ← answer]
  cases answer ws {} (.value o e) with
  | none => rfl
  | some v =>
    cases v with
    | array arr => exact trace_elements_value {} arr
    | _ => rfl

theorem propertyArray_value (ws : Workspace) (obj : ObjectRef) (key : String) :
    (propertyArray ws obj key).value = contents ws (keyValue ws obj key).run.value := by
  change ((trace ws (.lookup obj key) >>= _) {}).value.1 =
    contents ws ((trace ws (.lookup obj key) >>= _) {}).value.1
  have hlookup := trace_quiet ws (.lookup obj key) trivial
  rw [hlookup.bind_value, hlookup.bind_value]
  cases (trace ws (.lookup obj key) {}).value.1 with
  | none => rfl
  | some p =>
    change ((trace ws (.propertyValue p) >>= _) {}).value.1 =
      contents ws (answer ws {} (.propertyValue p))
    rw [Quiet.bind_value (trace_quiet ws (.propertyValue p) trivial), ← answer]
    cases answer ws {} (.propertyValue p) with
    | none => rfl
    | some v =>
      cases v with
      | array arr => exact trace_elements_value {} arr
      | _ => rfl

theorem flattening_append (w : Walk) (arr : ArrayRef) (as bs : List Node) :
    flattening ws w { arr with elements := as ++ bs } =
      flattening ws w { arr with elements := as } ++
        flattening ws w { arr with elements := bs } := by
  rw [flattening, flattening.eq_1 ws w { arr with elements := as },
    flattening.eq_1 ws w { arr with elements := bs }]
  change (if w.Bars arr.literal then _ else _) =
    (if w.Bars arr.literal then _ else _) ++ (if w.Bars arr.literal then _ else _)
  by_cases hbars : w.Bars arr.literal
  · rw [if_pos hbars, if_pos hbars, if_pos hbars]
    rfl
  · rw [if_neg hbars, if_neg hbars, if_neg hbars]
    exact List.flatMap_append

end Elements

/-- An array gives its objects in source order, those of spread arrays in place, and each literal
where it comes first. So an element all of whose objects are there before it, or that has none
because it cannot be followed or leads back to the array, leaves no trace. -/
theorem arrays_list_flattening_once (ws : Workspace) :
    (∀ (w : Walk) (arr : ArrayRef), (trace ws (.elements arr) { w with seen := [] }).value.1 =
      (flattening ws w arr).eraseDupsBy ObjectRef.sameLiteral) ∧
    (∀ (o : Origin) (e : Node),
      (resolveArray ws o e).value = contents ws (answer ws {} (.value o e))) ∧
    (∀ (obj : ObjectRef) (key : String),
      (propertyArray ws obj key).value = contents ws (keyValue ws obj key).run.value) ∧
    ∀ (w : Walk) (arr : ArrayRef) (as : List Node) (e : Node) (bs : List Node),
      (∀ obj ∈ flattening ws w { arr with elements := [e] },
        ∃ earlier ∈ flattening ws w { arr with elements := as }, earlier.literal = obj.literal) →
      (trace ws (.elements { arr with elements := as ++ e :: bs }) { w with seen := [] }).value.1 =
        (trace ws (.elements { arr with elements := as ++ bs }) { w with seen := [] }).value.1 := by
  refine ⟨trace_elements_value, resolveArray_value ws, propertyArray_value ws, ?_⟩
  intro w arr as e bs hearlier
  rw [trace_elements_listsNew w _ [], trace_elements_listsNew w _ [], flattening_append,
    ← List.singleton_append, flattening_append, flattening_append]
  refine unlisted_append_of_listed fun obj hobj => ?_
  exact mem_listedAfter.2 (.inr (hearlier obj hobj))

def tangledArray : ArrayRef :=
  ⟨⟨0, .declaration⟩, ⟨21, 40⟩,
    [.ident ⟨22, 23⟩ "a", .spread ⟨25, 32⟩ (.ident ⟨28, 32⟩ "list"), .ident ⟨34, 35⟩ "a",
      .object ⟨37, 39⟩ []]⟩

def tangledWorkspace : Workspace where
  disk := ⟨[], .dir []⟩
  project :=
    { root := [], imports := {}, byPath := [(["l.ts"], 0)]
      files := [⟨0, ["l.ts"], "l.ts", ⟨[], [0]⟩, { bindings := [("list", 1), ("a", 0)] }⟩]
      decls :=
        [⟨0, "a", ⟨6, 12⟩, .value (.object ⟨10, 12⟩ [])⟩,
          ⟨0, "list", ⟨14, 40⟩, .value (.array tangledArray.span tangledArray.elements)⟩] }

/-- Neither the spread of the array in itself nor the second mention of an object changes what the
array gives. -/
theorem tangled_array_listed_once :
    (trace tangledWorkspace (.elements tangledArray) {}).value.1 =
      (trace tangledWorkspace (.elements { tangledArray with
        elements := [.ident ⟨22, 23⟩ "a", .ident ⟨34, 35⟩ "a", .object ⟨37, 39⟩ []] }) {}).value.1 ∧
    (trace tangledWorkspace (.elements tangledArray) {}).value.1 =
      (trace tangledWorkspace (.elements { tangledArray with
        elements := [.ident ⟨22, 23⟩ "a", .spread ⟨25, 32⟩ (.ident ⟨28, 32⟩ "list"),
          .object ⟨37, 39⟩ []] }) {}).value.1 ∧
    (trace tangledWorkspace (.elements tangledArray) {}).value.1.map (·.span) =
      [⟨10, 12⟩, ⟨37, 39⟩] := by
  have hself : (flattening tangledWorkspace {} { tangledArray with
      elements := [.spread ⟨25, 32⟩ (.ident ⟨28, 32⟩ "list")] }).map ObjectRef.literal = [] := by
    decide +kernel
  have hagain : (flattening tangledWorkspace {} { tangledArray with
        elements := [.ident ⟨34, 35⟩ "a"] }).map ObjectRef.literal =
      (flattening tangledWorkspace {} { tangledArray with
        elements := [.ident ⟨22, 23⟩ "a", .spread ⟨25, 32⟩ (.ident ⟨28, 32⟩ "list")] }).map
          ObjectRef.literal := by
    decide +kernel
  refine ⟨?_, ?_, by decide +kernel⟩
  · refine (arrays_list_flattening_once tangledWorkspace).2.2.2 {} tangledArray
      [.ident ⟨22, 23⟩ "a"] (.spread ⟨25, 32⟩ (.ident ⟨28, 32⟩ "list"))
      [.ident ⟨34, 35⟩ "a", .object ⟨37, 39⟩ []] fun obj hobj => ?_
    rw [List.map_eq_nil_iff.1 hself] at hobj
    cases hobj
  · refine (arrays_list_flattening_once tangledWorkspace).2.2.2 {} tangledArray
      [.ident ⟨22, 23⟩ "a", .spread ⟨25, 32⟩ (.ident ⟨28, 32⟩ "list")] (.ident ⟨34, 35⟩ "a")
      [.object ⟨37, 39⟩ []] fun obj hobj => ?_
    exact List.mem_map.1 (hagain ▸ List.mem_map_of_mem hobj)

end RouteAtlas.Reference
