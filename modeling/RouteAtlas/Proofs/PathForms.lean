import RouteAtlas.Proofs.CanonicalPath

set_option autoImplicit false

namespace RouteAtlas

namespace Segment

theorem bracketed_iff_ends {s : List Char} :
    Bracketed s ↔ 2 ≤ s.length ∧ s.head? = some '[' ∧ s.getLast? = some ']' := by
  constructor
  · rintro ⟨inner, rfl⟩
    refine ⟨by simp, rfl, ?_⟩
    rw [← List.cons_append, List.getLast?_concat]
  · rintro ⟨hlength, hfirst, hlast⟩
    obtain ⟨rest, rfl⟩ := List.head?_eq_some_iff.1 hfirst
    obtain ⟨before, hbefore⟩ := List.getLast?_eq_some_iff.1 hlast
    cases before with
    | nil => simp [hbefore] at hlength
    | cons c inner =>
      obtain ⟨rfl, rfl⟩ := List.cons.inj hbefore
      exact ⟨inner, rfl⟩

end Segment

namespace RoutePath

open Segment

theorem components_of_slash {path : String} {rest : List Char} (h : path.toList = '/' :: rest) :
    components path = [] :: Text.split '/' rest := by
  rw [components, h]
  exact Text.split_append_sep '/' [] rest

theorem canonical_iff {path : String} :
    Canonical path ↔ path = "/" ∨ path.toList.head? = some '/' ∧
      path.toList.getLast? ≠ some '/' ∧ ¬['/', '/'] <:+: path.toList := by
  refine or_congr_right (and_congr_right fun hfirst => and_congr_right fun hlast => not_congr ?_)
  obtain ⟨rest, hpath⟩ := List.head?_eq_some_iff.1 hfirst
  have hbehind : ¬['/', '/'] <:+ path.toList ++ ['/'] := by
    rintro ⟨before, heq⟩
    have hbefore : before ++ ['/'] = path.toList := by
      rw [List.append_cons] at heq
      exact (List.append_inj' heq rfl).1
    rw [← hbefore, List.getLast?_concat] at hlast
    exact hlast rfl
  rw [components_of_slash hpath, List.tail_cons, Text.nil_mem_split_iff, ← List.cons_append, ← hpath,
    List.infix_concat_iff, or_iff_right hbehind]

theorem join_of_canonical {path : String} (h : Canonical path) : join [path] = path := by
  rcases h with rfl | ⟨hfirst, _, hempty⟩
  · rfl
  · obtain ⟨rest, hpath⟩ := List.head?_eq_some_iff.1 hfirst
    rw [components_of_slash hpath, List.tail_cons] at hempty
    have hparts : parts [path] = Text.split '/' rest := by
      have hnamed : ∀ c ∈ Text.split '/' rest, (!c.isEmpty) = true := by
        intro c hc
        have hne : c ≠ [] := fun h => hempty (h ▸ hc)
        simpa using hne
      rw [parts, List.flatMap_singleton, components_of_slash hpath]
      exact List.filter_eq_self.2 hnamed
    rw [join, hparts, Text.join_split, ← hpath, String.ofList_toList]

theorem exists_join_iff {path : String} : (∃ pieces, join pieces = path) ↔ Canonical path := by
  constructor
  · rintro ⟨pieces, rfl⟩
    exact join_canonical pieces
  · exact fun h => ⟨[path], join_of_canonical h⟩

theorem join_append (pieces more : List String) :
    join (pieces ++ more) = join [join pieces, join more] := by
  have hparts : parts [join pieces, join more] = parts (pieces ++ more) := by
    rw [parts_cons, parts_join, parts_join, parts_append]
  rw [join, join, hparts]

/-- A joined path has the components of its pieces that are not empty, in their order. So joining may
be done in stages, a joined path is joined already, and the joined paths are those that are a slash, or
begin with one, do not end with one and have no two slashes next to each other. -/
theorem fragments_join_in_stages :
    (∀ pieces : List String,
      (components (join pieces)).filter (fun c => !c.isEmpty) =
        pieces.flatMap fun p => (components p).filter fun c => !c.isEmpty) ∧
    (∀ pieces more : List String, join (pieces ++ more) = join [join pieces, join more]) ∧
    (∀ pieces : List String, join [join pieces] = join pieces) ∧
    ∀ path : String, (∃ pieces, join pieces = path) ↔
      path = "/" ∨ path.toList.head? = some '/' ∧ path.toList.getLast? ≠ some '/' ∧
        ¬['/', '/'] <:+: path.toList := by
  refine ⟨fun pieces => ?_, join_append, fun pieces => join_of_canonical (join_canonical pieces),
    fun path => exists_join_iff.trans canonical_iff⟩
  have hparts := parts_join pieces
  rwa [parts, List.flatMap_singleton] at hparts

example : join ["/api/", "//users", "", "[id]/"] = "/api/users/[id]" := by decide

theorem normalize_normalize (path : String) : normalize (normalize path) = normalize path := by
  rw [normalize_eq_self_iff, components_normalize]
  intro c hc
  obtain ⟨d, _, rfl⟩ := List.mem_map.1 hc
  exact not_bracketed_normalizeChars d

/-- Respelling a path respells each of its components on its own and makes no more and no fewer of
them. What has been respelled stays as it is, and the paths that stay are those in which no component
begins with an opening bracket and ends with a closing one. -/
theorem components_respelled_once (path : String) :
    normalize (normalize path) = normalize path ∧
    (components (normalize path)).length = (components path).length ∧
    (components (normalize path)).map String.ofList =
      (components path).map (fun c => Segment.normalize (String.ofList c)) ∧
    (normalize path = path ↔
      ¬∃ c ∈ components path, 2 ≤ c.length ∧ c.head? = some '[' ∧ c.getLast? = some ']') := by
  refine ⟨normalize_normalize path, ?_, ?_, ?_⟩
  · rw [components_normalize, List.length_map]
  · simp [components_normalize, Segment.normalize]
  · simp [normalize_eq_self_iff, bracketed_iff_ends]

example : normalize "/[[...]]/[[a]]/[]/[/]" = "/:*/:[a]/:/[/]" := by decide

end RoutePath

end RouteAtlas
