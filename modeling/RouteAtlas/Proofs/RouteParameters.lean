import RouteAtlas.Proofs.CanonicalPath

set_option autoImplicit false

namespace RouteAtlas

namespace DynamicSegment

/-- What stands behind the name of a parameter. -/
def mark (isCatchAll isOptional : Bool) : List Char :=
  match isCatchAll, isOptional with
  | true, true => ['*']
  | true, false => ['+']
  | false, true => ['?']
  | false, false => []

/-- The route spelling of a parameter. -/
def render (d : DynamicSegment) : String :=
  ":" ++ d.name ++ String.ofList (mark d.isCatchAll d.isOptional)

/-- The last character of a text would be read as the mark of a parameter. -/
def EndsInMark (s : List Char) : Prop := ∃ c ∈ ['*', '+', '?'], s.getLast? = some c

end DynamicSegment

namespace Segment

open DynamicSegment

theorem beforeTail?_concat (c d : Char) (s : List Char) :
    Text.beforeTail? [c] (s ++ [d]) = if d = c then some s else none := by
  split
  · rename_i h
    rw [Text.beforeTail?_eq_some_iff, h]
  · rename_i h
    rw [Option.eq_none_iff_forall_ne_some]
    intro r hr
    have heq := Text.beforeTail?_eq_some_iff.1 hr
    simp [h] at heq

theorem unmark_append_mark {name : List Char} {isCatchAll isOptional : Bool}
    (h : isCatchAll = false → isOptional = false → ¬EndsInMark name) :
    unmark (name ++ mark isCatchAll isOptional) = (name, isCatchAll, isOptional) := by
  cases isCatchAll with
  | true => cases isOptional <;> simp [mark, unmark, beforeTail?_concat]
  | false =>
    cases isOptional with
    | true => simp [mark, unmark, beforeTail?_concat]
    | false =>
      have hnone : ∀ c ∈ ['*', '+', '?'], Text.beforeTail? [c] name = none := by
        intro c hc
        rw [Option.eq_none_iff_forall_ne_some]
        intro r hr
        refine h rfl rfl ⟨c, hc, ?_⟩
        rw [Text.beforeTail?_eq_some_iff.1 hr, List.getLast?_concat]
      simp [mark, unmark, hnone]

theorem of_unmark {s name : List Char} {isCatchAll isOptional : Bool}
    (h : unmark s = (name, isCatchAll, isOptional)) :
    s = name ++ mark isCatchAll isOptional ∧
      (isCatchAll = false → isOptional = false → ¬EndsInMark name) := by
  unfold unmark at h
  split at h
  · rename_i n hn
    cases h
    exact ⟨Text.beforeTail?_eq_some_iff.1 hn, by simp⟩
  · rename_i hstar
    split at h
    · rename_i n hn
      cases h
      exact ⟨Text.beforeTail?_eq_some_iff.1 hn, by simp⟩
    · rename_i hplus
      split at h
      · rename_i n hn
        cases h
        exact ⟨Text.beforeTail?_eq_some_iff.1 hn, by simp⟩
      · rename_i hquestion
        cases h
        refine ⟨(List.append_nil s).symm, fun _ _ ⟨c, hc, hlast⟩ => ?_⟩
        obtain ⟨r, rfl⟩ := List.getLast?_eq_some_iff.1 hlast
        simp only [List.mem_cons, List.not_mem_nil, or_false] at hc
        rcases hc with rfl | rfl | rfl <;> simp_all [beforeTail?_concat]

theorem unmark_eq_iff {s name : List Char} {isCatchAll isOptional : Bool} :
    unmark s = (name, isCatchAll, isOptional) ↔
      s = name ++ mark isCatchAll isOptional ∧
        (isCatchAll = false → isOptional = false → ¬EndsInMark name) := by
  refine ⟨of_unmark, ?_⟩
  rintro ⟨rfl, h⟩
  exact unmark_append_mark h

theorem dynamicChars?_eq_some_iff {s : List Char} {d : DynamicSegment} :
    dynamicChars? s = some d ↔
      normalizeChars s = ':' :: (d.name.toList ++ mark d.isCatchAll d.isOptional) ∧ d.name ≠ "" ∧
        (d.isCatchAll = false → d.isOptional = false → ¬EndsInMark d.name.toList) := by
  obtain ⟨name, isCatchAll, isOptional⟩ := d
  unfold dynamicChars?
  cases hrest : Text.afterLead? [':'] (normalizeChars s) with
  | none =>
    simp only [reduceCtorEq, false_iff]
    rintro ⟨hspelled, _⟩
    rw [hspelled, Text.afterLead?_eq_some_iff.2 List.singleton_append.symm] at hrest
    cases hrest
  | some rest =>
    have hspelled : normalizeChars s = ':' :: rest := Text.afterLead?_eq_some_iff.1 hrest
    obtain ⟨⟨n, c, o⟩, hunmark⟩ : ∃ parts, unmark rest = parts := ⟨_, rfl⟩
    have hread : (n = name.toList ∧ c = isCatchAll ∧ o = isOptional) ↔
        rest = name.toList ++ mark isCatchAll isOptional ∧
          (isCatchAll = false → isOptional = false → ¬EndsInMark name.toList) := by
      rw [← unmark_eq_iff, hunmark, Prod.mk.injEq, Prod.mk.injEq]
    have hname : String.ofList n = name ↔ n = name.toList := by
      rw [← String.toList_inj, String.toList_ofList]
    simp only [hspelled, hunmark, List.cons.injEq, true_and, and_left_comm (b := name ≠ ""), ← hread]
    by_cases hempty : n = []
    · subst hempty
      simp only [List.isEmpty_nil, if_true, reduceCtorEq, false_iff]
      rintro ⟨hne, hnil, _⟩
      exact hne (String.toList_eq_nil_iff.1 hnil.symm)
    · rw [if_neg (by simpa using hempty), Option.some.injEq, DynamicSegment.mk.injEq, hname]
      refine ⟨fun h => ⟨?_, h⟩, And.right⟩
      rintro rfl
      exact hempty h.1

theorem dynamic?_eq_some_iff {s : String} {d : DynamicSegment} :
    dynamic? s = some d ↔ normalize s = d.render ∧ d.name ≠ "" ∧
      (d.isCatchAll = false → d.isOptional = false → ¬EndsInMark d.name.toList) := by
  rw [dynamic?, dynamicChars?_eq_some_iff, normalize, ← String.toList_inj, render]
  simp

theorem normalizeChars_plain {name : List Char} (hbracket : ¬['['] <+: name)
    (hdots : ¬['.', '.', '.'] <+: name) :
    normalizeChars ('[' :: (name ++ [']'])) = ':' :: name := by
  have hoptional : enclosed? ['[', '[', '.', '.', '.'] [']', ']'] ('[' :: (name ++ [']'])) = none := by
    rw [Option.eq_none_iff_forall_ne_some]
    intro inner h
    have heq := enclosed?_eq_some_iff.1 h
    cases name with
    | nil => simp at heq
    | cons c rest => simp_all
  have hcatchAll : enclosed? ['[', '.', '.', '.'] [']'] ('[' :: (name ++ [']'])) = none := by
    rw [Option.eq_none_iff_forall_ne_some]
    intro inner h
    have heq : name ++ [']'] = ['.', '.', '.'] ++ inner ++ [']'] := by
      simpa using enclosed?_eq_some_iff.1 h
    exact hdots ⟨inner, (List.append_cancel_right heq).symm⟩
  have hplain : enclosed? ['['] [']'] ('[' :: (name ++ [']'])) = some name :=
    enclosed?_eq_some_iff.2 rfl
  rw [normalizeChars, hoptional, hcatchAll, hplain]

theorem normalizeChars_catchAll (name : List Char) :
    normalizeChars (['[', '.', '.', '.'] ++ (name ++ [']'])) = ':' :: (name ++ ['+']) := by
  have hoptional :
      enclosed? ['[', '[', '.', '.', '.'] [']', ']'] (['[', '.', '.', '.'] ++ (name ++ [']'])) =
        none := by
    rw [Option.eq_none_iff_forall_ne_some]
    intro inner h
    simpa using enclosed?_eq_some_iff.1 h
  rw [normalizeChars, hoptional, enclosed?_eq_some_iff.2 rfl]

theorem normalizeChars_optional (name : List Char) :
    normalizeChars (['[', '[', '.', '.', '.'] ++ (name ++ [']', ']'])) = ':' :: (name ++ ['*']) := by
  rw [normalizeChars, enclosed?_eq_some_iff.2 rfl]

theorem dynamicChars?_normalizeChars (s : List Char) :
    dynamicChars? (normalizeChars s) = dynamicChars? s := by
  rw [dynamicChars?, normalizeChars_normalizeChars]
  rfl

end Segment

namespace RoutePath

theorem parameters_normalize (path : String) : parameters (normalize path) = parameters path := by
  rw [parameters, components_normalize, List.filterMap_map]
  exact congrArg (fun f => (components path).filterMap f)
    (funext Segment.dynamicChars?_normalizeChars)

end RoutePath

namespace Segment

open DynamicSegment

/-- A component is read as a parameter exactly when its route spelling is that of the parameter, which
has a name, and one without a mark if the parameter has none. So the three bracket forms of a usual
name are three parameters of this name, and a path has the parameters of its route spelling. -/
theorem parameters_read_back :
    (∀ (s : String) (d : DynamicSegment),
      dynamic? s = some d ↔ normalize s = d.render ∧ d.name ≠ "" ∧
        (d.isCatchAll = false → d.isOptional = false → ¬EndsInMark d.name.toList)) ∧
    (∀ name : String, name ≠ "" → ¬"[".toList <+: name.toList → ¬"...".toList <+: name.toList →
      ¬EndsInMark name.toList →
        dynamic? ("[" ++ name ++ "]") = some ⟨name, false, false⟩ ∧
        dynamic? ("[..." ++ name ++ "]") = some ⟨name, true, false⟩ ∧
        dynamic? ("[[..." ++ name ++ "]]") = some ⟨name, true, true⟩) ∧
    ∀ path : String,
      RoutePath.parameters (RoutePath.normalize path) = RoutePath.parameters path := by
  refine ⟨fun s d => dynamic?_eq_some_iff, fun name hname hbracket hdots hmark => ?_,
    RoutePath.parameters_normalize⟩
  have hplain : ("[" ++ name ++ "]").toList = '[' :: (name.toList ++ [']']) := by simp
  have hcatchAll : ("[..." ++ name ++ "]").toList =
      ['[', '.', '.', '.'] ++ (name.toList ++ [']']) := by simp
  have hoptional : ("[[..." ++ name ++ "]]").toList =
      ['[', '[', '.', '.', '.'] ++ (name.toList ++ [']', ']']) := by simp
  refine ⟨?_, ?_, ?_⟩
  · rw [dynamic?, dynamicChars?_eq_some_iff, hplain, normalizeChars_plain hbracket hdots]
    exact ⟨by simp [mark], hname, fun _ _ => hmark⟩
  · rw [dynamic?, dynamicChars?_eq_some_iff, hcatchAll, normalizeChars_catchAll]
    exact ⟨rfl, hname, nofun⟩
  · rw [dynamic?, dynamicChars?_eq_some_iff, hoptional, normalizeChars_optional]
    exact ⟨rfl, hname, nofun⟩

theorem marked_inside_read_back :
    "a*]...b" ≠ "" ∧ ¬"[".toList <+: "a*]...b".toList ∧ ¬"...".toList <+: "a*]...b".toList ∧
      ¬EndsInMark "a*]...b".toList ∧
      dynamic? "[a*]...b]" = some ⟨"a*]...b", false, false⟩ ∧
      dynamic? "[...a*]...b]" = some ⟨"a*]...b", true, false⟩ ∧
      dynamic? "[[...a*]...b]]" = some ⟨"a*]...b", true, true⟩ := by
  have hname : "a*]...b" ≠ "" := by decide
  have hbracket : ¬"[".toList <+: "a*]...b".toList := by decide
  have hdots : ¬"...".toList <+: "a*]...b".toList := by decide
  have hmark : ¬EndsInMark "a*]...b".toList := by
    rintro ⟨c, hc, hlast⟩
    obtain rfl : 'b' = c := Option.some.inj hlast
    exact absurd hc (by decide)
  obtain ⟨_, hforms, _⟩ := parameters_read_back
  exact ⟨hname, hbracket, hdots, hmark, hforms "a*]...b" hname hbracket hdots hmark⟩

end Segment

end RouteAtlas
