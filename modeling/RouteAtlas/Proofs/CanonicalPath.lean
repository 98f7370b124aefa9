import RouteAtlas.Route.Segment

set_option autoImplicit false

namespace RouteAtlas

namespace Segment

theorem enclosed?_eq_some_iff {opening closing s name : List Char} :
    enclosed? opening closing s = some name ↔ s = opening ++ (name ++ closing) := by
  simp only [enclosed?, Option.bind_eq_some_iff, Text.afterLead?_eq_some_iff,
    Text.beforeTail?_eq_some_iff]
  constructor
  · rintro ⟨_, rfl, rfl⟩
    rfl
  · rintro rfl
    exact ⟨_, rfl, rfl⟩

theorem subset_of_enclosed? {opening closing s name : List Char}
    (h : enclosed? opening closing s = some name) : name ⊆ s := by
  rw [enclosed?_eq_some_iff.1 h]
  intro c hc
  simp [hc]

def Bracketed (s : List Char) : Prop := ∃ inner, s = '[' :: (inner ++ [']'])

theorem bracketed_iff (s : List Char) : (enclosed? ['['] [']'] s).isSome = true ↔ Bracketed s := by
  simp only [Option.isSome_iff_exists, enclosed?_eq_some_iff]
  rfl

instance (s : List Char) : Decidable (Bracketed s) := decidable_of_iff _ (bracketed_iff s)

/-- All that the route spelling does: brackets around a component become a colon before the name
and at most one mark behind it, and any other component stays as it is. -/
theorem normalizeChars_cases (s : List Char) :
    (¬Bracketed s ∧ normalizeChars s = s) ∨
      Bracketed s ∧ ∃ name mark, name ⊆ s ∧ mark ⊆ ['*', '+'] ∧
        normalizeChars s = ':' :: (name ++ mark) := by
  unfold normalizeChars
  split
  · rename_i name h
    have hs : s = '[' :: ('[' :: '.' :: '.' :: '.' :: (name ++ [']']) ++ [']']) := by
      simpa using enclosed?_eq_some_iff.1 h
    exact .inr ⟨⟨_, hs⟩, name, ['*'], subset_of_enclosed? h, by simp, rfl⟩
  · split
    · rename_i name h
      have hs : s = '[' :: ('.' :: '.' :: '.' :: name ++ [']']) := enclosed?_eq_some_iff.1 h
      exact .inr ⟨⟨_, hs⟩, name, ['+'], subset_of_enclosed? h, by simp, rfl⟩
    · split
      · rename_i name h
        have hs : s = '[' :: (name ++ [']']) := enclosed?_eq_some_iff.1 h
        exact .inr ⟨⟨_, hs⟩, name, [], subset_of_enclosed? h, by simp, by simp⟩
      · rename_i h
        refine .inl ⟨fun hb => ?_, rfl⟩
        have := (bracketed_iff s).2 hb
        simp [h] at this

theorem normalizeChars_eq_self_iff {s : List Char} : normalizeChars s = s ↔ ¬Bracketed s := by
  rcases normalizeChars_cases s with ⟨hb, hs⟩ | ⟨hb, name, mark, _, _, hs⟩
  · simp [hb, hs]
  · obtain ⟨inner, rfl⟩ := hb
    rw [hs]
    simp [Bracketed]

theorem not_bracketed_normalizeChars (s : List Char) : ¬Bracketed (normalizeChars s) := by
  rcases normalizeChars_cases s with ⟨hb, hs⟩ | ⟨_, name, mark, _, _, hs⟩
  · rwa [hs]
  · rw [hs]
    rintro ⟨inner, heq⟩
    simp at heq

theorem not_mem_normalizeChars {s : List Char} (h : '/' ∉ s) : '/' ∉ normalizeChars s := by
  rcases normalizeChars_cases s with ⟨_, hs⟩ | ⟨_, name, mark, hname, hmark, hs⟩
  · rwa [hs]
  · rw [hs]
    simp only [List.mem_cons, List.mem_append, not_or]
    refine ⟨by decide, fun hc => h (hname hc), fun hc => ?_⟩
    have := hmark hc
    simp at this

theorem normalizeChars_ne_nil {s : List Char} (h : s ≠ []) : normalizeChars s ≠ [] := by
  rcases normalizeChars_cases s with ⟨_, hs⟩ | ⟨_, name, mark, _, _, hs⟩
  · rwa [hs]
  · rw [hs]
    exact List.cons_ne_nil _ _

theorem normalizeChars_normalizeChars (s : List Char) :
    normalizeChars (normalizeChars s) = normalizeChars s :=
  normalizeChars_eq_self_iff.2 (not_bracketed_normalizeChars s)

end Segment

namespace RoutePath

open Segment

/-- A path is `/`, or it begins with a slash, does not end with one and has no empty component
behind the first slash. -/
def Canonical (path : String) : Prop :=
  path = "/" ∨ path.toList.head? = some '/' ∧ path.toList.getLast? ≠ some '/' ∧
    [] ∉ (components path).tail

instance (path : String) : Decidable (Canonical path) :=
  inferInstanceAs (Decidable (_ ∨ _ ∧ _ ∧ _))

theorem not_mem_of_mem_components {path : String} {c : List Char} (h : c ∈ components path) :
    '/' ∉ c :=
  Text.not_mem_of_mem_split h

theorem mem_parts {pieces : List String} {c : List Char} :
    c ∈ parts pieces ↔ c ≠ [] ∧ ∃ p ∈ pieces, c ∈ components p := by
  simp only [parts, List.mem_flatMap, List.mem_filter, Bool.not_eq_eq_eq_not, Bool.not_true,
    List.isEmpty_eq_false_iff]
  constructor
  · rintro ⟨p, hp, hc, hne⟩
    exact ⟨hne, p, hp, hc⟩
  · rintro ⟨hne, p, hp, hc⟩
    exact ⟨p, hp, hc, hne⟩

theorem components_join (pieces : List String) :
    components (join pieces) = [] :: if parts pieces = [] then [[]] else parts pieces := by
  have hslash : ∀ c ∈ parts pieces, '/' ∉ c := by
    intro c hc
    obtain ⟨_, p, _, hc⟩ := mem_parts.1 hc
    exact not_mem_of_mem_components hc
  have hcut : Text.split '/' ('/' :: Text.join '/' (parts pieces)) =
      [] :: Text.split '/' (Text.join '/' (parts pieces)) := by
    exact Text.split_append_sep '/' [] _
  rw [components, join, String.toList_ofList, hcut]
  by_cases hnone : parts pieces = []
  · simp [hnone]
    rfl
  · rw [if_neg hnone, Text.split_join hnone hslash]

theorem mem_components_join {pieces : List String} {c : List Char} :
    c ∈ components (join pieces) ↔ c = [] ∨ c ∈ parts pieces := by
  rw [components_join]
  split <;> simp [*]

theorem nil_mem_of_getLast?_slash {path : String} (h : path.toList.getLast? = some '/') :
    [] ∈ (components path).tail := by
  obtain ⟨before, hpath⟩ := List.getLast?_eq_some_iff.1 h
  have hcomponents : components path = Text.split '/' before ++ [[]] := by
    rw [components, hpath]
    exact Text.split_append_sep '/' before []
  rw [hcomponents]
  cases hbefore : Text.split '/' before with
  | nil => exact absurd hbefore (Text.splitBy_ne_nil _ _)
  | cons c cs => simp

theorem join_canonical (pieces : List String) : Canonical (join pieces) := by
  by_cases hnone : parts pieces = []
  · exact .inl (by rw [join, hnone]; rfl)
  · have hcomponents := components_join pieces
    rw [if_neg hnone] at hcomponents
    have hempty : [] ∉ (components (join pieces)).tail := by
      rw [hcomponents]
      exact fun h => (mem_parts.1 h).1 rfl
    exact .inr ⟨by simp [join], fun hlast => hempty (nil_mem_of_getLast?_slash hlast), hempty⟩

/-- Each component is respelled on its own. -/
theorem components_normalize (path : String) :
    components (normalize path) = (components path).map normalizeChars := by
  rw [normalize, components, String.toList_ofList]
  apply Text.split_join
  · simp [components, Text.split, Text.splitBy_ne_nil]
  · intro c hc
    obtain ⟨d, hd, rfl⟩ := List.mem_map.1 hc
    exact not_mem_normalizeChars (not_mem_of_mem_components hd)

theorem normalize_eq_self_iff {path : String} :
    normalize path = path ↔ ∀ c ∈ components path, ¬Bracketed c := by
  have hid : (components path).map normalizeChars = components path ↔
      ∀ c ∈ components path, ¬Bracketed c := by
    conv => lhs; rhs; rw [← List.map_id (components path)]
    simp only [List.map_inj_left, id_eq, normalizeChars_eq_self_iff]
  rw [← hid]
  constructor
  · intro h
    rw [← components_normalize, h]
  · intro h
    rw [normalize, h, components, Text.join_split, String.ofList_toList]

theorem normalize_join_eq_self_iff {pieces : List String} :
    normalize (join pieces) = join pieces ↔
      ∀ p ∈ pieces, ∀ c ∈ components p, ¬Bracketed c := by
  rw [normalize_eq_self_iff]
  constructor
  · intro h p hp c hc hbracketed
    have hne : c ≠ [] := by
      obtain ⟨inner, rfl⟩ := hbracketed
      simp
    exact h c (mem_components_join.2 (.inr (mem_parts.2 ⟨hne, p, hp, hc⟩))) hbracketed
  · intro h c hc
    rcases mem_components_join.1 hc with rfl | hc
    · decide
    · obtain ⟨_, p, hp, hc⟩ := mem_parts.1 hc
      exact h p hp c hc

structure Normal (path : String) : Prop where
  canonical : Canonical path
  normalized : normalize path = path

theorem join_normal {cs : List (List Char)} (h : ∀ c ∈ cs, '/' ∉ c) :
    Normal (join (cs.map fun c => String.ofList (normalizeChars c))) := by
  refine ⟨join_canonical _, normalize_join_eq_self_iff.2 fun p hp c hc => ?_⟩
  obtain ⟨d, hd, rfl⟩ := List.mem_map.1 hp
  have hslash : '/' ∉ normalizeChars d := not_mem_normalizeChars (h d hd)
  rw [components, String.toList_ofList, Text.split_of_not_mem hslash, List.mem_singleton] at hc
  rw [hc]
  exact not_bracketed_normalizeChars d

theorem joinNormalized_normal (pieces : List String) : Normal (joinNormalized pieces) := by
  apply join_normal
  intro c hc
  obtain ⟨_, p, _, hc⟩ := mem_parts.1 hc
  exact not_mem_of_mem_components hc

theorem parts_append (pieces more : List String) :
    parts (pieces ++ more) = parts pieces ++ parts more :=
  List.flatMap_append

theorem parts_cons (piece : String) (pieces : List String) :
    parts (piece :: pieces) = parts [piece] ++ parts pieces :=
  parts_append [piece] pieces

theorem parts_map_ofList {cs : List (List Char)} (h : ∀ c ∈ cs, c ≠ [] ∧ '/' ∉ c) :
    parts (cs.map String.ofList) = cs := by
  induction cs with
  | nil => rfl
  | cons c cs ih =>
    obtain ⟨hne, hslash⟩ := h c List.mem_cons_self
    have hc : parts [String.ofList c] = [c] := by
      simp [parts, components, Text.split_of_not_mem hslash, hne]
    rw [List.map_cons, parts_cons, hc, ih fun d hd => h d (List.mem_cons_of_mem _ hd)]
    rfl

theorem parts_join (pieces : List String) : parts [join pieces] = parts pieces := by
  have hne : (parts pieces).filter (fun c => !c.isEmpty) = parts pieces := by
    refine List.filter_eq_self.2 fun c hc => ?_
    have := (mem_parts.1 hc).1
    simpa using this
  rw [parts, List.flatMap_singleton, components_join]
  split
  · rename_i hnone
    rw [hnone]
    rfl
  · exact hne

theorem parts_respelled (pieces : List String) :
    parts ((parts pieces).map fun c => String.ofList (normalizeChars c)) =
      (parts pieces).map normalizeChars := by
  rw [← Function.comp_def String.ofList normalizeChars, ← List.map_map]
  refine parts_map_ofList fun c hc => ?_
  obtain ⟨d, hd, rfl⟩ := List.mem_map.1 hc
  obtain ⟨hne, p, _, hp⟩ := mem_parts.1 hd
  exact ⟨normalizeChars_ne_nil hne, not_mem_normalizeChars (not_mem_of_mem_components hp)⟩

theorem parts_joinNormalized (pieces : List String) :
    parts [joinNormalized pieces] = (parts pieces).map normalizeChars := by
  rw [joinNormalized, parts_join, parts_respelled]

theorem joinNormalized_eq (pieces : List String) :
    joinNormalized pieces =
      String.ofList ('/' :: Text.join '/' ((parts pieces).map normalizeChars)) := by
  rw [joinNormalized, join, parts_respelled]

/-- A slash, then the components of the texts that are not empty, in the route spelling, with
slashes between them. -/
def spelling (texts : List String) : String :=
  let named := (texts.flatMap components).filter fun c => !c.isEmpty
  String.ofList ('/' :: Text.join '/' (named.map normalizeChars))

theorem joinNormalized_eq_spelling (pieces : List String) :
    joinNormalized pieces = spelling pieces := by
  rw [joinNormalized_eq, spelling, List.filter_flatMap]
  rfl

/-- Joining a joined path with more is the same as joining all at once. -/
theorem joinNormalized_staged (pieces more : List String) :
    joinNormalized (joinNormalized pieces :: more) = joinNormalized (pieces ++ more) := by
  have hid : normalizeChars ∘ normalizeChars = normalizeChars :=
    funext normalizeChars_normalizeChars
  have hparts : (parts (joinNormalized pieces :: more)).map normalizeChars =
      (parts (pieces ++ more)).map normalizeChars := by
    rw [parts_cons, parts_joinNormalized, parts_append, List.map_append, List.map_append,
      List.map_map, hid]
  rw [joinNormalized_eq (_ :: _), joinNormalized_eq (_ ++ _), hparts]

end RoutePath

end RouteAtlas
