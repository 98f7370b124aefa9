set_option autoImplicit false

namespace RouteAtlas.Text

/-- The pieces between the characters for which `sep` holds. There is always at least one. -/
def splitBy (sep : Char → Bool) : List Char → List (List Char)
  | [] => [[]]
  | c :: cs =>
    if sep c then [] :: splitBy sep cs
    else
      match splitBy sep cs with
      | [] => [[c]]
      | p :: ps => (c :: p) :: ps

def split (sep : Char) (s : List Char) : List (List Char) := splitBy (· == sep) s

def join (sep : Char) : List (List Char) → List Char
  | [] => []
  | [p] => p
  | p :: q :: ps => p ++ sep :: join sep (q :: ps)

theorem splitBy_ne_nil (sep : Char → Bool) (s : List Char) : splitBy sep s ≠ [] := by
  cases s with
  | nil => simp [splitBy]
  | cons c cs => simp only [splitBy]; split <;> (try split) <;> simp

theorem split_ne_nil (sep : Char) (s : List Char) : split sep s ≠ [] := splitBy_ne_nil _ s

theorem join_split (sep : Char) (s : List Char) : join sep (split sep s) = s := by
  induction s with
  | nil => rfl
  | cons c cs ih =>
    unfold split at ih ⊢
    simp only [splitBy]
    cases h : splitBy (· == sep) cs with
    | nil => exact absurd h (splitBy_ne_nil _ _)
    | cons p ps =>
      rw [h] at ih
      by_cases hc : c = sep
      · subst hc; simp [join, ih]
      · cases ps with
        | nil => simp [hc, join] at ih ⊢; exact ih
        | cons q ps => simp [hc, join] at ih ⊢; exact ih

theorem flatten_splitBy (sep : Char → Bool) (s : List Char) :
    (splitBy sep s).flatten = s.filter fun c => !sep c := by
  induction s with
  | nil => rfl
  | cons c cs ih =>
    cases hc : sep c with
    | true => simp [splitBy, hc, ih]
    | false =>
      cases h : splitBy sep cs with
      | nil => exact absurd h (splitBy_ne_nil _ _)
      | cons p ps => simp [splitBy, hc, h, ← ih]

theorem sep_eq_false_of_mem_splitBy {sep : Char → Bool} {s p : List Char} {c : Char}
    (hp : p ∈ splitBy sep s) (hc : c ∈ p) : sep c = false := by
  induction s generalizing p with
  | nil =>
    simp only [splitBy, List.mem_singleton] at hp
    simp [hp] at hc
  | cons a s ih =>
    simp only [splitBy] at hp
    split at hp
    · rcases List.mem_cons.1 hp with rfl | hp
      · cases hc
      · exact ih hp hc
    · rename_i ha
      cases h : splitBy sep s with
      | nil => exact absurd h (splitBy_ne_nil _ _)
      | cons q qs =>
        simp only [h, List.mem_cons] at hp ih
        rcases hp with rfl | hp
        · rcases List.mem_cons.1 hc with rfl | hc
          · simpa using ha
          · exact ih (.inl rfl) hc
        · exact ih (.inr hp) hc

theorem not_mem_of_mem_split {sep : Char} {s p : List Char} (h : p ∈ split sep s) : sep ∉ p := by
  intro hc
  have := sep_eq_false_of_mem_splitBy h hc
  simp at this

theorem splitBy_of_forall {sep : Char → Bool} {s : List Char} (h : ∀ c ∈ s, sep c = false) :
    splitBy sep s = [s] := by
  induction s with
  | nil => rfl
  | cons c cs ih =>
    have hc : sep c = false := h c (by simp)
    simp [splitBy, hc, ih fun d hd => h d (by simp [hd])]

theorem splitBy_append_cons {sep : Char → Bool} {c : Char} (hc : sep c = true) (s t : List Char) :
    splitBy sep (s ++ c :: t) = splitBy sep s ++ splitBy sep t := by
  induction s with
  | nil => simp [splitBy, hc]
  | cons d ds ih =>
    cases hd : sep d with
    | true => simp [splitBy, hd, ih]
    | false =>
      cases h : splitBy sep ds with
      | nil => exact absurd h (splitBy_ne_nil _ _)
      | cons p ps => simp [splitBy, hd, ih, h]

/-- Pieces without separators come back from what they are joined to by one. -/
theorem splitBy_join {sep : Char → Bool} {c : Char} (hc : sep c = true) {ps : List (List Char)}
    (hne : ps ≠ []) (h : ∀ p ∈ ps, ∀ d ∈ p, sep d = false) : splitBy sep (join c ps) = ps := by
  induction ps with
  | nil => exact absurd rfl hne
  | cons p ps ih =>
    have hp : splitBy sep p = [p] := splitBy_of_forall (h p (by simp))
    cases ps with
    | nil => exact hp
    | cons q qs =>
      have hrest : splitBy sep (join c (q :: qs)) = q :: qs :=
        ih (by simp) fun r hr => h r (by simp [hr])
      rw [join, splitBy_append_cons hc, hp, hrest, List.singleton_append]

theorem beq_eq_false_of_not_mem {sep : Char} {s : List Char} (h : sep ∉ s) :
    ∀ c ∈ s, (c == sep) = false := by
  intro c hc
  rw [beq_eq_false_iff_ne]
  rintro rfl
  exact h hc

theorem split_of_not_mem {sep : Char} {s : List Char} (h : sep ∉ s) : split sep s = [s] :=
  splitBy_of_forall (beq_eq_false_of_not_mem h)

theorem split_append_sep (sep : Char) (s t : List Char) :
    split sep (s ++ sep :: t) = split sep s ++ split sep t :=
  splitBy_append_cons (by simp) s t

theorem split_join {sep : Char} {ps : List (List Char)} (hne : ps ≠ []) (h : ∀ p ∈ ps, sep ∉ p) :
    split sep (join sep ps) = ps :=
  splitBy_join (by simp) hne fun p hp => beq_eq_false_of_not_mem (h p hp)

theorem forall_mem_join {p : Char → Prop} {sep : Char} (hsep : p sep) {ps : List (List Char)}
    (h : ∀ q ∈ ps, ∀ c ∈ q, p c) : ∀ c ∈ join sep ps, p c := by
  induction ps with
  | nil => simp [join]
  | cons q ps ih =>
    rw [List.forall_mem_cons] at h
    cases ps with
    | nil => exact h.1
    | cons r ps =>
      rw [join, List.forall_mem_append, List.forall_mem_cons]
      exact ⟨h.1, hsep, ih h.2⟩

theorem join_concat (sep : Char) (ps : List (List Char)) (p : List Char) :
    join sep (ps ++ [p]) = ps.flatMap (fun q => q ++ [sep]) ++ p := by
  induction ps with
  | nil => rfl
  | cons q ps ih =>
    have hjoin : join sep (q :: (ps ++ [p])) = q ++ sep :: join sep (ps ++ [p]) := by
      cases ps <;> rfl
    rw [List.cons_append, hjoin, ih]
    simp

theorem append_sep_eq_flatMap (sep : Char) (s : List Char) :
    s ++ [sep] = (split sep s).flatMap fun p => p ++ [sep] := by
  obtain ⟨ps, p, hpieces⟩ :=
    (List.eq_nil_or_concat (split sep s)).resolve_left (split_ne_nil sep s)
  rw [List.concat_eq_append] at hpieces
  calc
    s ++ [sep] = join sep (ps ++ [p]) ++ [sep] := by rw [← hpieces, join_split]
    _ = (ps ++ [p]).flatMap fun q => q ++ [sep] := by rw [join_concat]; simp
    _ = (split sep s).flatMap fun q => q ++ [sep] := by rw [hpieces]

/-- A text has an empty piece exactly where two separators meet once there is one on either side of
it. -/
theorem nil_mem_split_iff {sep : Char} {s : List Char} :
    [] ∈ split sep s ↔ [sep, sep] <:+: sep :: (s ++ [sep]) := by
  constructor
  · intro h
    obtain ⟨before, after, hpieces⟩ := List.append_of_mem h
    -- what stands before the empty piece ends in a separator, be it the first of all
    obtain ⟨lead, hlead⟩ : ∃ lead, sep :: before.flatMap (fun p => p ++ [sep]) = lead ++ [sep] := by
      rcases List.eq_nil_or_concat before with rfl | ⟨ps, p, rfl⟩
      · exact ⟨[], rfl⟩
      · exact ⟨sep :: (ps.flatMap (fun q => q ++ [sep]) ++ p), by simp⟩
    refine ⟨lead, after.flatMap fun p => p ++ [sep], ?_⟩
    rw [append_sep_eq_flatMap, hpieces, List.flatMap_append, ← List.cons_append, hlead]
    simp
  · rintro ⟨before, after, heq⟩
    have houter : split sep (sep :: (s ++ [sep])) = [] :: (split sep s ++ [[]]) := by
      rw [← List.nil_append (sep :: _), split_append_sep, split_append_sep]
      rfl
    have hinner : split sep (before ++ [sep, sep] ++ after) =
        split sep before ++ [] :: split sep after := by
      rw [List.append_assoc, List.cons_append, split_append_sep, List.singleton_append,
        ← List.nil_append (sep :: after), split_append_sep]
      rfl
    rw [heq, houter] at hinner
    obtain ⟨p, ps, hbefore⟩ := List.exists_cons_of_ne_nil (split_ne_nil sep before)
    obtain ⟨qs, q, hafter⟩ :=
      (List.eq_nil_or_concat (split sep after)).resolve_left (split_ne_nil sep after)
    have hpieces : split sep s ++ [[]] = (ps ++ [] :: qs) ++ [q] := by
      rw [hbefore, hafter] at hinner
      simpa using (List.cons.inj hinner).2
    rw [(List.append_inj' hpieces rfl).1]
    simp

def afterLead? : List Char → List Char → Option (List Char)
  | [], s => some s
  | _ :: _, [] => none
  | l :: ls, c :: cs => if l = c then afterLead? ls cs else none

def beforeTail? (tail s : List Char) : Option (List Char) :=
  (afterLead? tail.reverse s.reverse).map List.reverse

theorem afterLead?_eq_some_iff {lead s r : List Char} :
    afterLead? lead s = some r ↔ s = lead ++ r := by
  induction lead generalizing s with
  | nil => simp [afterLead?, eq_comm]
  | cons l ls ih =>
    cases s with
    | nil => simp [afterLead?]
    | cons c cs =>
      by_cases h : l = c
      · subst h; simp [afterLead?, ih]
      · simp [afterLead?, h, Ne.symm h]

theorem beforeTail?_eq_some_iff {tail s r : List Char} :
    beforeTail? tail s = some r ↔ s = r ++ tail := by
  simp only [beforeTail?, Option.map_eq_some_iff, afterLead?_eq_some_iff]
  constructor
  · rintro ⟨a, h, rfl⟩
    have := congrArg List.reverse h
    simpa using this
  · rintro rfl
    exact ⟨r.reverse, by simp, by simp⟩

/-- The text before and after the first `sep`. -/
def splitFirst? (sep : Char) : List Char → Option (List Char × List Char)
  | [] => none
  | c :: cs =>
    if c = sep then some ([], cs)
    else (splitFirst? sep cs).map fun (a, b) => (c :: a, b)

def splitLast? (sep : Char) (s : List Char) : Option (List Char × List Char) :=
  (splitFirst? sep s.reverse).map fun (a, b) => (b.reverse, a.reverse)

theorem splitFirst?_eq_none_iff {sep : Char} {s : List Char} :
    splitFirst? sep s = none ↔ sep ∉ s := by
  induction s with
  | nil => simp [splitFirst?]
  | cons c cs ih =>
    by_cases hc : c = sep
    · simp [splitFirst?, hc]
    · simp [splitFirst?, hc, Ne.symm hc, ih]

theorem splitFirst?_eq_some_iff {sep : Char} {s a b : List Char} :
    splitFirst? sep s = some (a, b) ↔ s = a ++ sep :: b ∧ sep ∉ a := by
  induction s generalizing a b with
  | nil => simp [splitFirst?]
  | cons c cs ih =>
    by_cases hc : c = sep
    · subst hc
      cases a with
      | nil => simp [splitFirst?]
      | cons d a => simp +contextual [splitFirst?]
    · cases a with
      | nil => simp [splitFirst?, hc]
      | cons d a =>
        simp only [splitFirst?, hc, if_false, Option.map_eq_some_iff, Prod.exists, ih]
        constructor
        · rintro ⟨a', b', ⟨rfl, ha⟩, heq⟩
          cases heq
          exact ⟨rfl, by simp [Ne.symm hc, ha]⟩
        · rintro ⟨heq, ha⟩
          cases heq
          exact ⟨a, b, ⟨rfl, fun h => ha (by simp [h])⟩, rfl⟩

theorem splitLast?_eq_none_iff {sep : Char} {s : List Char} :
    splitLast? sep s = none ↔ sep ∉ s := by
  rw [splitLast?, Option.map_eq_none_iff, splitFirst?_eq_none_iff, List.mem_reverse]

theorem splitLast?_eq_some_iff {sep : Char} {s a b : List Char} :
    splitLast? sep s = some (a, b) ↔ s = a ++ sep :: b ∧ sep ∉ b := by
  simp only [splitLast?, Option.map_eq_some_iff, Prod.exists, splitFirst?_eq_some_iff]
  constructor
  · rintro ⟨b', a', ⟨hs, hb⟩, heq⟩
    cases heq
    have hs := congrArg List.reverse hs
    exact ⟨by simpa using hs, by simpa using hb⟩
  · rintro ⟨rfl, hb⟩
    exact ⟨b.reverse, a.reverse, ⟨by simp, by simpa using hb⟩, by simp⟩

def replaceFirst (old : Char) (new : List Char) (s : List Char) : List Char :=
  match splitFirst? old s with
  | some (a, b) => a ++ new ++ b
  | none => s

end RouteAtlas.Text
