import Mathlib.Data.List.DropRight
import Mathlib.Tactic.MkIffOfInductiveProp
import RouteAtlas.Rpc.Name

set_option autoImplicit false

namespace RouteAtlas.Rpc

/-- A word that is not mistaken for part of an acronym: a lower-case letter with at least one
lower-case letter or digit behind it, all of them ASCII characters. -/
structure Word where
  first : Char
  rest : List Char
  first_isLower : first.isLower = true
  rest_ne_nil : rest ≠ []
  rest_isPlain : (rest.all fun c => c.isLower || c.isDigit) = true

namespace Word

def letters (w : Word) : List Char := w.first :: w.rest

def capitalized (w : Word) : List Char := w.first.toUpper :: w.rest

end Word

/-- The ways to write a list of words as one name. -/
inductive Style where
  | camel
  | pascal
  | snake
  | kebab
  | dotted
  | spaced

/-- The list of words as one name. -/
def Style.spell : Style → List Word → String
  | .camel, [] => ""
  | .camel, w :: ws => String.ofList (w.letters ++ ws.flatMap Word.capitalized)
  | .pascal, ws => String.ofList (ws.flatMap Word.capitalized)
  | .snake, ws => String.ofList (Text.join '_' (ws.map Word.letters))
  | .kebab, ws => String.ofList (Text.join '-' (ws.map Word.letters))
  | .dotted, ws => String.ofList (Text.join '.' (ws.map Word.letters))
  | .spaced, ws => String.ofList (Text.join ' ' (ws.map Word.letters))

/-- What a scan for words needs to know of a character that begins no word. -/
@[mk_iff]
structure Plain (c : Char) : Prop where
  endsWord : (Text.isLower c || c.isDigit) = true
  not_isUpper : Text.isUpper c = false
  lowerExpansion : Text.lowerExpansion c = [c]
  not_separator : isSeparator c = false
  ne_at : c ≠ '@'

@[mk_iff]
structure Capital (c : Char) : Prop where
  isUpper : Text.isUpper c.toUpper = true
  lowerExpansion : Text.lowerExpansion c.toUpper = [c]
  upperExpansion : Text.upperExpansion c = [c.toUpper]
  not_separator : isSeparator c.toUpper = false
  ne_at : c.toUpper ≠ '@'

/-- What holds of all ASCII characters holds of these, so that it can be tried out. -/
theorem forall_ascii {p : Char → Prop} (h : ∀ n ∈ List.range 128, p (Char.ofNat n)) {c : Char}
    (hc : c.isLower = true ∨ c.isDigit = true) : p c := by
  have hascii : c.toNat < 128 := by
    rcases hc with hc | hc
    · have hz : c.val ≤ 'z'.val := of_decide_eq_true ((Bool.and_eq_true _ _).mp hc).2
      exact Nat.lt_of_le_of_lt (UInt32.le_iff_toNat_le.1 hz) (by decide)
    · have hnine : c.val ≤ '9'.val := of_decide_eq_true ((Bool.and_eq_true _ _).mp hc).2
      exact Nat.lt_of_le_of_lt (UInt32.le_iff_toNat_le.1 hnine) (by decide)
  simpa using h c.toNat (List.mem_range.2 hascii)

theorem plain_of_ascii {c : Char} (h : c.isLower = true ∨ c.isDigit = true) : Plain c := by
  have hall : ∀ n ∈ List.range 128, (Char.ofNat n).isLower = true ∨ (Char.ofNat n).isDigit = true →
      Plain (Char.ofNat n) := by
    simp only [plain_iff]
    decide +kernel
  exact forall_ascii (p := fun c => c.isLower = true ∨ c.isDigit = true → Plain c) hall h h

theorem capital_of_isLower {c : Char} (h : c.isLower = true) : Capital c := by
  have hall : ∀ n ∈ List.range 128, (Char.ofNat n).isLower = true → Capital (Char.ofNat n) := by
    simp only [capital_iff]
    decide +kernel
  exact forall_ascii (p := fun c => c.isLower = true → Capital c) hall (.inl h) h

namespace Word

variable (w : Word)

theorem plain_first : Plain w.first := plain_of_ascii (.inl w.first_isLower)

theorem capital_first : Capital w.first := capital_of_isLower w.first_isLower

theorem plain_rest : ∀ c ∈ w.rest, Plain c := by
  intro c hc
  have hplain : (c.isLower || c.isDigit) = true := List.all_eq_true.1 w.rest_isPlain c hc
  exact plain_of_ascii ((Bool.or_eq_true _ _).mp hplain)

theorem plain_letters : ∀ c ∈ w.letters, Plain c := by
  rintro c (_ | ⟨_, hc⟩)
  · exact w.plain_first
  · exact w.plain_rest c hc

end Word

theorem wordsFrom_plain {cs : List Char} (h : ∀ c ∈ cs, Plain c) (before : Char)
    (current rest : List Char) :
    wordsFrom before current (cs ++ rest) =
      wordsFrom (cs.getLastD before) (current ++ cs) rest := by
  induction cs generalizing before current with
  | nil => simp
  | cons c cs ih =>
    have hc : Plain c := h c List.mem_cons_self
    have hnone : beginsWord before c (cs ++ rest).head? = false := by
      rw [beginsWord, hc.not_isUpper, Bool.false_and]
    rw [List.cons_append, wordsFrom, hnone, hc.lowerExpansion, if_neg (by decide),
      ih fun d hd => h d (List.mem_cons_of_mem _ hd), List.append_assoc, List.getLastD_cons]
    rfl

/-- The rest of a word is read up to its last character, which is plain. -/
theorem wordsFrom_word (w : Word) (before : Char) (rest : List Char) :
    ∃ last, Plain last ∧
      wordsFrom before [w.first] (w.rest ++ rest) = wordsFrom last w.letters rest := by
  refine ⟨w.rest.getLastD before, ?_, wordsFrom_plain w.plain_rest before _ rest⟩
  obtain ⟨last, hlast⟩ := List.getLast?_isSome.2 w.rest_ne_nil |> Option.isSome_iff_exists.1
  rw [List.getLastD_eq_getLast?, hlast]
  exact w.plain_rest last (List.mem_of_getLast? hlast)

theorem wordsFrom_capitalized (ws : List Word) {before : Char} (h : Plain before)
    (current : List Char) :
    wordsFrom before current (ws.flatMap Word.capitalized) = current :: ws.map Word.letters := by
  induction ws generalizing before current with
  | nil => rfl
  | cons w ws ih =>
    have hbegins (after : Option Char) : beginsWord before w.first.toUpper after = true := by
      rw [beginsWord, w.capital_first.isUpper, h.endsWord]
      rfl
    obtain ⟨last, hlast, hword⟩ :=
      wordsFrom_word w w.first.toUpper (ws.flatMap Word.capitalized)
    rw [List.flatMap_cons, Word.capitalized, List.cons_append, wordsFrom, hbegins, if_pos rfl,
      w.capital_first.lowerExpansion, hword, ih hlast, List.map_cons]

theorem caseWords_cons {w : Word} {c : Char} (h : Text.lowerExpansion c = [w.first])
    (ws : List Word) :
    caseWords (c :: (w.rest ++ ws.flatMap Word.capitalized)) =
      w.letters :: ws.map Word.letters := by
  obtain ⟨last, hlast, hword⟩ := wordsFrom_word w c (ws.flatMap Word.capitalized)
  rw [caseWords, h, hword, wordsFrom_capitalized ws hlast]

theorem caseWords_letters (w : Word) : caseWords w.letters = [w.letters] := by
  simpa [Word.letters] using caseWords_cons w.plain_first.lowerExpansion []

theorem splitWords_of_forall {cs : List Char} (h : ∀ c ∈ cs, isSeparator c = false) :
    splitWords cs = caseWords cs := by
  rw [splitWords, Text.splitBy_of_forall h, List.flatMap_singleton]

theorem splitWords_join {sep : Char} (hsep : isSeparator sep = true) (ws : List Word) :
    splitWords (Text.join sep (ws.map Word.letters)) = ws.map Word.letters := by
  cases ws with
  | nil => rfl
  | cons w ws =>
    have hletters : ∀ p ∈ (w :: ws).map Word.letters, ∀ c ∈ p, isSeparator c = false := by
      simp only [List.forall_mem_map]
      exact fun v _ c hc => (v.plain_letters c hc).not_separator
    rw [splitWords, Text.splitBy_join hsep (by simp) hletters, List.flatMap_map]
    simp only [caseWords_letters, List.map_eq_flatMap]

namespace Word

theorem forall_mem_flatMap_capitalized {p : Char → Prop} (plain : ∀ c, Plain c → p c)
    (capital : ∀ c, Capital c → p c.toUpper) (ws : List Word) :
    ∀ c ∈ ws.flatMap capitalized, p c := by
  simp only [List.mem_flatMap, forall_exists_index, and_imp]
  rintro c w - (_ | ⟨_, hc⟩)
  · exact capital _ w.capital_first
  · exact plain c (w.plain_rest c hc)

end Word

/-- Every style gives the words back. -/
theorem splitWords_spell (style : Style) (ws : List Word) :
    splitWords (style.spell ws).toList = ws.map Word.letters := by
  have hcapitals (vs : List Word) : ∀ c ∈ vs.flatMap Word.capitalized, isSeparator c = false :=
    Word.forall_mem_flatMap_capitalized (fun _ h => h.not_separator) (fun _ h => h.not_separator) vs
  cases style with
  | camel =>
    cases ws with
    | nil => rfl
    | cons w ws =>
      have hsep : ∀ c ∈ w.letters ++ ws.flatMap Word.capitalized, isSeparator c = false := by
        rw [List.forall_mem_append]
        exact ⟨fun c hc => (w.plain_letters c hc).not_separator, hcapitals ws⟩
      rw [Style.spell, String.toList_ofList, splitWords_of_forall hsep]
      exact caseWords_cons w.plain_first.lowerExpansion ws
  | pascal =>
    rw [Style.spell, String.toList_ofList, splitWords_of_forall (hcapitals ws)]
    cases ws with
    | nil => rfl
    | cons w ws => exact caseWords_cons w.capital_first.lowerExpansion ws
  | snake | kebab | dotted | spaced => rw [Style.spell, String.toList_ofList, splitWords_join rfl]

theorem at_not_mem_spell (style : Style) (ws : List Word) : '@' ∉ (style.spell ws).toList := by
  have hletters : ∀ c ∈ ws.map Word.letters, ∀ d ∈ c, d ≠ '@' := by
    simp only [List.forall_mem_map]
    exact fun w _ c hc => (w.plain_letters c hc).ne_at
  have hcapitals (vs : List Word) : ∀ c ∈ vs.flatMap Word.capitalized, c ≠ '@' :=
    Word.forall_mem_flatMap_capitalized (fun _ h => h.ne_at) (fun _ h => h.ne_at) vs
  have hspell : ∀ c ∈ (style.spell ws).toList, c ≠ '@' := by
    cases style with
    | camel =>
      cases ws with
      | nil => simp [Style.spell]
      | cons w ws =>
        rw [Style.spell, String.toList_ofList, List.forall_mem_append]
        exact ⟨fun c hc => (w.plain_letters c hc).ne_at, hcapitals ws⟩
    | pascal => rw [Style.spell, String.toList_ofList]; exact hcapitals ws
    | snake | kebab | dotted | spaced =>
      rw [Style.spell, String.toList_ofList]
      exact Text.forall_mem_join (by decide) hletters
  exact fun hat => hspell '@' hat rfl

theorem routerName_spell (style : Style) (ws : List Word) :
    routerName (style.spell ws) = String.ofList (camelCase (coreWords (ws.map Word.letters))) := by
  have hmade : ¬ "router@".toList.isPrefixOf (style.spell ws).toList = true := by
    rw [List.isPrefixOf_iff_prefix]
    exact fun hlead => at_not_mem_spell style ws (hlead.subset (by decide))
  rw [routerName, if_neg hmade, splitWords_spell]

theorem camelCase_letters (ws : List Word) :
    String.ofList (camelCase (ws.map Word.letters)) = Style.camel.spell ws := by
  cases ws with
  | nil => rfl
  | cons w ws =>
    have hcapitalize : capitalize ∘ Word.letters = Word.capitalized := by
      funext v
      exact congrArg (· ++ v.rest) v.capital_first.upperExpansion
    rw [List.map_cons, camelCase, List.flatMap_map, Style.spell]
    exact congrArg (fun f => String.ofList (w.letters ++ ws.flatMap f)) hcapitalize

theorem trailing_words_dropped (ws : List Word) :
    ∃ core tail, ws = core ++ tail ∧
      (∀ w ∈ tail, w.letters ∈ routerWords) ∧
      (∀ w ∈ core.getLast?, w.letters ∉ routerWords) ∧
      ((ws.map Word.letters).reverse.dropWhile routerWords.contains).reverse =
        core.map Word.letters := by
  let isRouter (w : Word) : Bool := routerWords.contains w.letters
  refine ⟨ws.rdropWhile isRouter, ws.rtakeWhile isRouter, ?_, ?_, ?_, ?_⟩
  · exact List.rdropWhile_append_rtakeWhile.symm
  · intro w hw
    have hrouter : isRouter w = true := List.mem_rtakeWhile_imp hw
    exact List.contains_iff_mem.1 hrouter
  · intro w hw hrouter
    obtain ⟨hne, rfl⟩ := List.mem_getLast?_eq_getLast hw
    exact List.rdropWhile_last_not isRouter ws hne (List.contains_iff_mem.2 hrouter)
  · rw [← List.map_reverse, List.dropWhile_map, ← List.map_reverse]
    rfl

theorem coreWords_letters (ws : List Word) :
    ∃ lead core tail, ws = lead ++ core ++ tail ∧
      (lead = [] ∧ (∀ w ∈ ws.head?, w.letters ∉ makingWords) ∨
        ∃ w, lead = [w] ∧ w.letters ∈ makingWords) ∧
      (∀ w ∈ tail, w.letters ∈ routerWords) ∧
      (∀ w ∈ core.getLast?, w.letters ∉ routerWords) ∧
      coreWords (ws.map Word.letters) = core.map Word.letters := by
  cases ws with
  | nil => exact ⟨[], [], [], by simp [coreWords]⟩
  | cons w ws =>
    by_cases hmaking : w.letters ∈ makingWords
    · obtain ⟨core, tail, hws, htail, hlast, hcore⟩ := trailing_words_dropped ws
      refine ⟨[w], core, tail, by simp [hws], .inr ⟨w, rfl, hmaking⟩, htail, hlast, ?_⟩
      rw [List.map_cons, coreWords, ← hcore]
      simp only [List.contains_iff_mem, hmaking, if_true]
    · obtain ⟨core, tail, hws, htail, hlast, hcore⟩ := trailing_words_dropped (w :: ws)
      refine ⟨[], core, tail, hws, .inl ⟨rfl, by simpa using hmaking⟩, htail, hlast, ?_⟩
      rw [← hcore, List.map_cons, coreWords]
      simp only [List.contains_iff_mem, hmaking, if_false]

/-- The name of a router is the same in every style of writing its words. It is the camel case of
what is left of them without one word of making in front and without all words for routers
behind. -/
theorem router_name_of_every_style (words : List Word) :
    ∃ lead core tail, words = lead ++ core ++ tail ∧
      (lead = [] ∧ (∀ w ∈ words.head?, w.letters ∉ makingWords) ∨
        ∃ w, lead = [w] ∧ w.letters ∈ makingWords) ∧
      (∀ w ∈ tail, w.letters ∈ routerWords) ∧
      (∀ w ∈ core.getLast?, w.letters ∉ routerWords) ∧
      ∀ style : Style, routerName (style.spell words) = Style.camel.spell core := by
  obtain ⟨lead, core, tail, hwords, hlead, htail, hlast, hcore⟩ := coreWords_letters words
  refine ⟨lead, core, tail, hwords, hlead, htail, hlast, fun style => ?_⟩
  rw [routerName_spell, hcore, camelCase_letters]

def userRouterWords : List Word :=
  [⟨'m', "ake".toList, by decide, by decide, by decide⟩,
    ⟨'u', "ser2".toList, by decide, by decide, by decide⟩,
    ⟨'r', "outer".toList, by decide, by decide, by decide⟩,
    ⟨'f', "actory".toList, by decide, by decide, by decide⟩]

theorem user_router_named :
    Style.pascal.spell userRouterWords = "MakeUser2RouterFactory" ∧
      Style.kebab.spell userRouterWords = "make-user2-router-factory" ∧
      routerName "MakeUser2RouterFactory" = "user2" ∧
      routerName "make-user2-router-factory" = "user2" ∧
      routerName "createUserRoutes" = "user" ∧ routerName "build_user_routes" = "user" := by
  have hpascal : Style.pascal.spell userRouterWords = "MakeUser2RouterFactory" := by
    decide +kernel
  have hkebab : Style.kebab.spell userRouterWords = "make-user2-router-factory" := by
    decide +kernel
  have hname : routerName "MakeUser2RouterFactory" = "user2" := by decide +kernel
  obtain ⟨_, _, _, _, _, _, _, hstyle⟩ := router_name_of_every_style userRouterWords
  refine ⟨hpascal, hkebab, hname, ?_, by decide +kernel, by decide +kernel⟩
  rw [← hkebab, hstyle, ← hstyle .pascal, hpascal, hname]

end RouteAtlas.Rpc
