import RouteAtlas.Rpc.Name

set_option autoImplicit false

namespace RouteAtlas.Rpc

/-- What the loop over a part has at hand: the words it has finished and the letters of the word it
has begun. -/
structure Progress where
  finished : List (List Char)
  begun : List Char

namespace Progress

def start : Progress := ⟨[], []⟩

def read (s : Progress) (c : Char) (isFirst : Bool) : Progress :=
  if isFirst then ⟨s.finished ++ [s.begun], Text.lowerExpansion c⟩
  else ⟨s.finished, s.begun ++ Text.lowerExpansion c⟩

def words (s : Progress) : List (List Char) :=
  s.finished ++ if s.begun.isEmpty then [] else [s.begun]

end Progress

def before? (part : List Char) : Nat → Option Char
  | 0 => none
  | i + 1 => part[i]?

/-- One round of the loop, at a character with its position. It fails if it looks for a character
that is not there. -/
def advance? (part : List Char) (s : Progress) (place : Char × Nat) : Option Progress :=
  let (c, i) := place
  if Text.isUpper c && !s.begun.isEmpty then
    (before? part i).map fun before => s.read c (beginsWord before c part[i + 1]?)
  else some (s.read c false)

def wordsAt? (part : List Char) : Option (List (List Char)) :=
  (part.zipIdx.foldlM (advance? part) Progress.start).map Progress.words

/-- The words of a name, found by position in each of its parts. -/
def splitWordsAt? (name : List Char) : Option (List (List Char)) :=
  ((Text.splitBy isSeparator name).mapM wordsAt?).map List.flatten

section Loop

variable {part seen rest : List Char} {before c : Char} {s : Progress}

theorem read_begun_ne_nil (s : Progress) (c : Char) (isFirst : Bool) : (s.read c isFirst).begun ≠ [] := by
  cases isFirst <;> simp [Progress.read, Text.lowerExpansion_ne_nil]

theorem advance?_behind (hpart : part = seen ++ before :: c :: rest) (h : s.begun ≠ []) :
    advance? part s (c, seen.length + 1) = some (s.read c (beginsWord before c rest.head?)) := by
  have hbefore : before? part (seen.length + 1) = some before := by
    simp [before?, hpart]
  have hafter : part[seen.length + 1 + 1]? = rest.head? := by
    have hthrough : part = (seen ++ [before, c]) ++ rest := by simp [hpart]
    rw [hthrough, List.getElem?_append_right (by simp), List.head?_eq_getElem?]
    simp
  cases hupper : Text.isUpper c with
  | false => simp [advance?, beginsWord, hupper]
  | true => simp [advance?, hupper, h, hbefore, hafter]

/-- Once a word has been begun, the rounds that are left find the words of what is left. -/
theorem foldlM_advance? (hpart : part = seen ++ before :: rest) (h : s.begun ≠ []) :
    ((rest.zipIdx (seen.length + 1)).foldlM (advance? part) s).map
      Progress.words = some (s.finished ++ wordsFrom before s.begun rest) := by
  induction rest generalizing seen before s with
  | nil => simp [Progress.words, wordsFrom, h]
  | cons c rest ih =>
    have hnext : part = (seen ++ [before]) ++ c :: rest := by simp [hpart]
    have hrest := ih hnext (read_begun_ne_nil s c (beginsWord before c rest.head?))
    rw [List.length_append, List.length_singleton] at hrest
    rw [List.zipIdx_cons, List.foldlM_cons, advance?_behind hpart h, Option.bind_eq_bind,
      Option.bind_some, hrest, wordsFrom]
    cases beginsWord before c rest.head? <;> simp [Progress.read]

end Loop

/-- The first round looks at nothing before it, as no word has been begun. -/
theorem wordsAt?_eq (part : List Char) : wordsAt? part = some (caseWords part) := by
  cases part with
  | nil => rfl
  | cons c rest =>
    have hfirst : advance? (c :: rest) .start (c, 0) = some (Progress.start.read c false) := by
      simp [advance?, Progress.start]
    have hrest := foldlM_advance? (List.nil_append (c :: rest)).symm
      (read_begun_ne_nil .start c false)
    rw [wordsAt?, List.zipIdx_cons, List.foldlM_cons, hfirst]
    exact hrest

theorem splitWordsAt?_eq (name : List Char) : splitWordsAt? name = some (splitWords name) := by
  have hparts : (Text.splitBy isSeparator name).mapM wordsAt? =
      some ((Text.splitBy isSeparator name).map caseWords) := by
    rw [funext wordsAt?_eq]
    exact List.mapM_pure
  rw [splitWordsAt?, hparts, splitWords, List.flatMap_def]
  rfl

theorem flatten_wordsFrom (before : Char) (current cs : List Char) :
    (wordsFrom before current cs).flatten = current ++ cs.flatMap Text.lowerExpansion := by
  induction cs generalizing before current with
  | nil => simp [wordsFrom]
  | cons c cs ih =>
    rw [wordsFrom]
    split <;> simp [ih]

theorem nil_not_mem_wordsFrom {current : List Char} (h : current ≠ []) (before : Char)
    (cs : List Char) : [] ∉ wordsFrom before current cs := by
  induction cs generalizing before current with
  | nil => simpa [wordsFrom] using h.symm
  | cons c cs ih =>
    rw [wordsFrom]
    split
    · rw [List.mem_cons, not_or]
      exact ⟨h.symm, ih (Text.lowerExpansion_ne_nil c) c⟩
    · exact ih (by simp [h]) c

theorem flatten_caseWords (part : List Char) :
    (caseWords part).flatten = part.flatMap Text.lowerExpansion := by
  cases part with
  | nil => rfl
  | cons c cs => rw [caseWords, flatten_wordsFrom, List.flatMap_cons]

theorem nil_not_mem_caseWords (part : List Char) : [] ∉ caseWords part := by
  cases part with
  | nil => simp [caseWords]
  | cons c cs => exact nil_not_mem_wordsFrom (Text.lowerExpansion_ne_nil c) c cs

theorem isSeparator_iff {c : Char} : isSeparator c = true ↔ c ∈ ['_', '-', '.', ' '] := by
  simp [isSeparator, or_assoc]

theorem flatten_splitWords (name : List Char) :
    (splitWords name).flatten =
      (name.filter fun c => c ∉ ['_', '-', '.', ' ']).flatMap Text.lowerExpansion := by
  have hletters : (fun c => decide (c ∉ ['_', '-', '.', ' '])) = fun c => !isSeparator c := by
    funext c
    simp only [← isSeparator_iff, decide_not, Bool.decide_eq_true]
  calc
    (splitWords name).flatten =
        (Text.splitBy isSeparator name).flatMap fun part => (caseWords part).flatten := by
      simp only [splitWords, List.flatten_eq_flatMap, List.flatMap_assoc]
    _ = (Text.splitBy isSeparator name).flatMap fun part => part.flatMap Text.lowerExpansion := by
      simp only [flatten_caseWords]
    _ = (Text.splitBy isSeparator name).flatten.flatMap Text.lowerExpansion := by
      simp only [List.flatten_eq_flatMap, List.flatMap_assoc, id_eq]
    _ = _ := by rw [Text.flatten_splitBy, hletters]

theorem nil_not_mem_splitWords (name : List Char) : [] ∉ splitWords name := by
  rw [splitWords, List.mem_flatMap]
  rintro ⟨part, _, hpart⟩
  exact nil_not_mem_caseWords part hpart

/-- Finding words by position never looks before a part, and finds the same words. None of them is
empty, together they are the lower case of the name without its separators, and the words on either
side of a separator are those of what stands there. -/
theorem words_keep_every_character :
    (∀ name : List Char, splitWordsAt? name = some (splitWords name)) ∧
    (∀ name : List Char, [] ∉ splitWords name) ∧
    (∀ name : List Char, (splitWords name).flatten =
      (name.filter fun c => c ∉ ['_', '-', '.', ' ']).flatMap Text.lowerExpansion) ∧
    ∀ sep ∈ ['_', '-', '.', ' '], ∀ before after : List Char,
      splitWords (before ++ sep :: after) = splitWords before ++ splitWords after := by
  refine ⟨splitWordsAt?_eq, nil_not_mem_splitWords, flatten_splitWords, ?_⟩
  intro sep hsep before after
  rw [splitWords, Text.splitBy_append_cons (isSeparator_iff.2 hsep), List.flatMap_append]
  rfl

/-- A run of capitals, and a capital whose lower case is two characters. -/
theorem capitals_kept_beside_separator :
    '_' ∈ ['_', '-', '.', ' '] ∧
      splitWords ("createTRPC".toList ++ '_' :: "İD2x".toList) =
        splitWords "createTRPC".toList ++ splitWords "İD2x".toList ∧
      splitWords "createTRPC".toList = ["create".toList, "trpc".toList] ∧
      splitWords "İD2x".toList = [['i', Char.ofNat 0x307, 'd', '2', 'x']] := by
  have hmem : '_' ∈ ['_', '-', '.', ' '] := by decide
  obtain ⟨_, _, _, hsides⟩ := words_keep_every_character
  exact ⟨hmem, hsides '_' hmem _ _, by decide +kernel, by decide +kernel⟩

end RouteAtlas.Rpc
