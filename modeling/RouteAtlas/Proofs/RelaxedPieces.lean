import RouteAtlas.Json.Relaxed

set_option autoImplicit false

/-!
# Relaxed documents piece by piece

A document with comments and trailing commas is a sequence of pieces: characters, whole strings,
comments. What the two passes leave of it is said on the pieces: comments go, except for the line
ends that close them, and so do commas whose next piece of meaning closes a list or an object.
Everything else stays, and above all every string. The passes scan characters and know nothing of
pieces, but they come to the end of each piece in the state in which they began it.
-/
namespace RouteAtlas.Json.Relaxed

inductive StringUnit where
  | plain (c : Char) (ne_quote : c ≠ '"') (ne_backslash : c ≠ '\\')
  | escape (c : Char)

def StringUnit.text : StringUnit → List Char
  | .plain c _ _ => [c]
  | .escape c => ['\\', c]

inductive Piece where
  | char (c : Char) (ne_quote : c ≠ '"') (ne_slash : c ≠ '/')
  | string (units : List StringUnit)
  /-- A comment up to the end of a line, which closes it. -/
  | lineComment (body : List Char) (oneLine : '\n' ∉ body)
  | blockComment (body : List Char) (unclosed : ¬['*', '/'] <:+: body)

namespace Piece

def text : Piece → List Char
  | .char c _ _ => [c]
  | .string units => '"' :: (units.flatMap StringUnit.text ++ ['"'])
  | .lineComment body _ => '/' :: '/' :: (body ++ ['\n'])
  | .blockComment body _ => '/' :: '*' :: (body ++ ['*', '/'])

def isComment : Piece → Bool
  | .lineComment _ _ => true
  | .blockComment _ _ => true
  | _ => false

def isBlank : Piece → Bool
  | .char c _ _ => Text.isBlank c
  | _ => false

def isComma : Piece → Bool
  | .char c _ _ => c = ','
  | _ => false

def isCloser : Piece → Bool
  | .char c _ _ => c = '\x7d' || c = ']'
  | _ => false

def string? : Piece → Option (List StringUnit)
  | .string units => some units
  | _ => none

def lineEnd : Piece := .char '\n' (by decide) (by decide)

/-- A piece without its comment: a block comment leaves nothing, a line comment its line end. -/
def uncommented : Piece → List Piece
  | .lineComment _ _ => [lineEnd]
  | .blockComment _ _ => []
  | p => [p]

end Piece

def textOf (pieces : List Piece) : List Char := pieces.flatMap Piece.text

/-- Whether the next piece that is neither blank nor a comment closes a list or an object. -/
def closerAhead (rest : List Piece) : Bool :=
  (rest.find? fun p => !(p.isBlank || p.isComment)).any Piece.isCloser

/-- The pieces without comments and trailing commas. -/
def tidied : List Piece → List Piece
  | [] => []
  | p :: rest =>
    if p.isComma && closerAhead rest then tidied rest else p.uncommented ++ tidied rest

def Tidy (pieces : List Piece) : Prop :=
  ∀ before p after, pieces = before ++ p :: after →
    p.isComment = false ∧ ¬(p.isComma = true ∧ closerAhead after = true)

/-- A document may end in a line comment that no line end closes. -/
structure Document where
  pieces : List Piece
  openComment : Option {body : List Char // '\n' ∉ body}

def Document.openText (d : Document) : List Char :=
  match d.openComment with
  | some body => '/' :: '/' :: body.1
  | none => []

def Document.text (d : Document) : List Char := textOf d.pieces ++ d.openText

/-! ## Comments -/

section Comments

variable (rest : List Char)

theorem stripCommentsFrom_char {c : Char} (ne_quote : c ≠ '"') (ne_slash : c ≠ '/') :
    stripCommentsFrom .plain (c :: rest) = c :: stripCommentsFrom .plain rest := by
  simp [stripCommentsFrom, ne_quote, ne_slash]

theorem stripCommentsFrom_units (units : List StringUnit) :
    stripCommentsFrom .string (units.flatMap StringUnit.text ++ '"' :: rest) =
      units.flatMap StringUnit.text ++ '"' :: stripCommentsFrom .plain rest := by
  induction units with
  | nil => simp [stripCommentsFrom]
  | cons unit units ih =>
    cases unit with
    | plain c ne_quote ne_backslash =>
      simp [StringUnit.text, stripCommentsFrom, ne_quote, ne_backslash, ih]
    | escape c => simp [StringUnit.text, stripCommentsFrom, ih]

theorem stripCommentsFrom_lineComment {body : List Char} (oneLine : '\n' ∉ body) :
    stripCommentsFrom .lineComment (body ++ '\n' :: rest) =
      '\n' :: stripCommentsFrom .plain rest := by
  induction body with
  | nil => simp [stripCommentsFrom]
  | cons c body ih =>
    have hc : c ≠ '\n' := fun h => oneLine (by simp [h])
    have hbody : '\n' ∉ body := fun h => oneLine (by simp [h])
    simp [stripCommentsFrom, hc, ih hbody]

theorem stripCommentsFrom_openComment {body : List Char} (oneLine : '\n' ∉ body) :
    stripCommentsFrom .lineComment body = [] := by
  induction body with
  | nil => rfl
  | cons c body ih =>
    have hc : c ≠ '\n' := fun h => oneLine (by simp [h])
    have hbody : '\n' ∉ body := fun h => oneLine (by simp [h])
    simp [stripCommentsFrom, hc, ih hbody]

/-- The scan of a block comment ends at the first star and slash. A star that was read before the
body would close the comment with a slash at its front. -/
theorem stripCommentsFrom_blockComment {body : List Char} (unclosed : ¬['*', '/'] <:+: body)
    (star : Bool) (hstar : star = true → body.head? ≠ some '/') :
    stripCommentsFrom (.blockComment star) (body ++ '*' :: '/' :: rest) =
      stripCommentsFrom .plain rest := by
  induction body generalizing star with
  | nil => simp [stripCommentsFrom]
  | cons c body ih =>
    have hgoes : (star && c = '/') = false := by
      cases star with
      | false => rfl
      | true => simpa using hstar rfl
    have hbody : ¬['*', '/'] <:+: body := fun h => unclosed (h.trans (List.suffix_cons c body).isInfix)
    have hnext : decide (c = '*') = true → body.head? ≠ some '/' := by
      intro hc hslash
      obtain ⟨more, rfl⟩ := List.head?_eq_some_iff.1 hslash
      have hc : c = '*' := by simpa using hc
      exact unclosed ⟨[], more, by simp [hc]⟩
    simp only [List.cons_append, stripCommentsFrom, hgoes]
    exact ih hbody _ hnext

theorem stripCommentsFrom_piece (p : Piece) :
    stripCommentsFrom .plain (p.text ++ rest) =
      textOf p.uncommented ++ stripCommentsFrom .plain rest := by
  cases p with
  | char c ne_quote ne_slash => exact stripCommentsFrom_char rest ne_quote ne_slash
  | string units =>
    have hunits := stripCommentsFrom_units rest units
    simpa [Piece.text, Piece.uncommented, textOf, stripCommentsFrom] using hunits
  | lineComment body oneLine =>
    have hbody := stripCommentsFrom_lineComment rest oneLine
    simpa [Piece.text, Piece.uncommented, textOf, Piece.lineEnd, stripCommentsFrom] using hbody
  | blockComment body unclosed =>
    have hbody := stripCommentsFrom_blockComment rest unclosed false nofun
    simpa [Piece.text, Piece.uncommented, textOf, stripCommentsFrom] using hbody

end Comments

theorem stripCommentsFrom_textOf (pieces : List Piece) (rest : List Char) :
    stripCommentsFrom .plain (textOf pieces ++ rest) =
      textOf (pieces.flatMap Piece.uncommented) ++ stripCommentsFrom .plain rest := by
  induction pieces with
  | nil => rfl
  | cons p pieces ih =>
    have hp := stripCommentsFrom_piece (textOf pieces ++ rest) p
    simp only [textOf, List.flatMap_cons, List.flatMap_append, List.append_assoc] at hp ih ⊢
    rw [hp, ih]

theorem stripComments_text (d : Document) :
    stripComments d.text = textOf (d.pieces.flatMap Piece.uncommented) := by
  have hopen : stripCommentsFrom .plain d.openText = [] := by
    unfold Document.openText
    split
    · rename_i body _
      simpa [stripCommentsFrom] using stripCommentsFrom_openComment body.2
    · rfl
  rw [stripComments, Document.text, stripCommentsFrom_textOf, hopen, List.append_nil]

/-! ## Trailing commas -/

theorem stripCommasFrom_units (units : List StringUnit) (rest : List Char) :
    stripCommasFrom .string (units.flatMap StringUnit.text ++ '"' :: rest) =
      units.flatMap StringUnit.text ++ '"' :: stripCommasFrom .plain rest := by
  induction units with
  | nil => simp [stripCommasFrom]
  | cons unit units ih =>
    cases unit with
    | plain c ne_quote ne_backslash =>
      simp [StringUnit.text, stripCommasFrom, ne_quote, ne_backslash, ih]
    | escape c => simp [StringUnit.text, stripCommasFrom, ih]

/-- Blanks and comments leave only blanks, so the first character that is not blank belongs to the
first piece that is neither. -/
theorem closesNext_uncommented (pieces : List Piece) :
    closesNext (textOf (pieces.flatMap Piece.uncommented)) = closerAhead pieces := by
  induction pieces with
  | nil => rfl
  | cons p pieces ih =>
    cases p with
    | char c ne_quote ne_slash =>
      by_cases hc : Text.isBlank c = true
      · have hskip : closerAhead (.char c ne_quote ne_slash :: pieces) = closerAhead pieces := by
          simp [closerAhead, Piece.isBlank, hc]
        rw [hskip, ← ih]
        simp [closesNext, textOf, Piece.uncommented, Piece.text, hc]
      · simp [closesNext, textOf, closerAhead, Piece.uncommented, Piece.text, Piece.isBlank,
          Piece.isComment, Piece.isCloser, hc]
    | string units =>
      have hquote : Text.isBlank '"' = false := by decide
      simp [closesNext, textOf, closerAhead, Piece.uncommented, Piece.text, Piece.isBlank,
        Piece.isComment, Piece.isCloser, hquote]
    | lineComment body oneLine =>
      have hline : Text.isBlank '\n' = true := by decide
      have hskip : closerAhead (.lineComment body oneLine :: pieces) = closerAhead pieces := by
        simp [closerAhead, Piece.isComment]
      rw [hskip, ← ih]
      simp [closesNext, textOf, Piece.uncommented, Piece.text, Piece.lineEnd, hline]
    | blockComment body unclosed =>
      have hskip : closerAhead (.blockComment body unclosed :: pieces) = closerAhead pieces := by
        simp [closerAhead, Piece.isComment]
      rw [hskip, ← ih]
      rfl

theorem stripCommasFrom_piece (p : Piece) (rest : List Char)
    (h : ¬(p.isComma = true ∧ closesNext rest = true)) :
    stripCommasFrom .plain (textOf p.uncommented ++ rest) =
      textOf p.uncommented ++ stripCommasFrom .plain rest := by
  cases p with
  | char c ne_quote ne_slash =>
    have hkept : (decide (c = ',') && closesNext rest) = false := by
      simpa [Piece.isComma] using h
    simp only [textOf, Piece.uncommented, List.flatMap_cons, List.flatMap_nil, Piece.text,
      List.cons_append, List.nil_append, stripCommasFrom, hkept, ne_quote, if_false]
    rfl
  | string units =>
    have hunits := stripCommasFrom_units units rest
    simpa [textOf, Piece.uncommented, Piece.text, stripCommasFrom] using hunits
  | lineComment body oneLine => simp [textOf, Piece.uncommented, Piece.text, Piece.lineEnd,
      stripCommasFrom]
  | blockComment body unclosed => rfl

theorem stripCommasFrom_textOf (pieces : List Piece) :
    stripCommasFrom .plain (textOf (pieces.flatMap Piece.uncommented)) = textOf (tidied pieces) := by
  induction pieces with
  | nil => rfl
  | cons p pieces ih =>
    have hsplit : textOf ((p :: pieces).flatMap Piece.uncommented) =
        textOf p.uncommented ++ textOf (pieces.flatMap Piece.uncommented) := by
      simp [textOf]
    rw [hsplit, tidied]
    split
    · -- what the comma sees ahead is the text that the first pass left of the rest
      rename_i hcomma
      rw [Bool.and_eq_true, ← closesNext_uncommented pieces] at hcomma
      obtain ⟨hcomma, hcloses⟩ := hcomma
      rw [← ih]
      cases p with
      | char c ne_quote ne_slash =>
        have hc : c = ',' := by simpa [Piece.isComma] using hcomma
        simp [textOf, Piece.uncommented, Piece.text, stripCommasFrom, hc] at hcloses ⊢
        simp [hcloses]
      | string | lineComment | blockComment => cases hcomma
    · rename_i hcomma
      rw [Bool.and_eq_true, ← closesNext_uncommented pieces] at hcomma
      rw [stripCommasFrom_piece p _ hcomma, ih]
      simp [textOf]

theorem toPlain_text (d : Document) : toPlain d.text = textOf (tidied d.pieces) := by
  rw [toPlain, stripComments_text]
  exact stripCommasFrom_textOf d.pieces

/-! ## What is left -/

theorem tidied_strings (pieces : List Piece) :
    (tidied pieces).filterMap Piece.string? = pieces.filterMap Piece.string? := by
  induction pieces with
  | nil => rfl
  | cons p pieces ih =>
    have hp : p.uncommented.filterMap Piece.string? = p.string?.toList := by
      cases p <;> rfl
    have hcomma : p.isComma = true → p.string? = none := by
      cases p <;> simp [Piece.isComma, Piece.string?]
    rw [tidied]
    split
    · rename_i h
      rw [Bool.and_eq_true] at h
      rw [ih, List.filterMap_cons_none (hcomma h.1)]
    · rw [List.filterMap_append, hp, ih, List.filterMap_cons]
      cases p.string? <;> rfl

theorem tidy_nil : Tidy [] := by
  intro before p after h
  simp at h

theorem tidy_cons_iff {p : Piece} {rest : List Piece} :
    Tidy (p :: rest) ↔
      p.isComment = false ∧ ¬(p.isComma = true ∧ closerAhead rest = true) ∧ Tidy rest := by
  constructor
  · intro h
    obtain ⟨hcomment, hcomma⟩ := h [] p rest rfl
    exact ⟨hcomment, hcomma, fun before q after heq => h (p :: before) q after (by simp [heq])⟩
  · rintro ⟨hcomment, hcomma, hrest⟩ before q after heq
    cases before with
    | nil =>
      cases heq
      exact ⟨hcomment, hcomma⟩
    | cons first before =>
      cases heq
      exact hrest before q after rfl

theorem uncommented_of_not_comment {p : Piece} (h : p.isComment = false) : p.uncommented = [p] := by
  cases p with
  | char | string => rfl
  | lineComment | blockComment => cases h

theorem tidied_eq_self {pieces : List Piece} (h : Tidy pieces) : tidied pieces = pieces := by
  induction pieces with
  | nil => rfl
  | cons p rest ih =>
    obtain ⟨hcomment, hcomma, hrest⟩ := tidy_cons_iff.1 h
    rw [← Bool.and_eq_true] at hcomma
    rw [tidied, if_neg hcomma, uncommented_of_not_comment hcomment, ih hrest, List.singleton_append]

theorem length_uncommented_le (p : Piece) :
    (textOf p.uncommented).length + (if p.isComment then 1 else 0) ≤ p.text.length := by
  cases p <;> simp [textOf, Piece.uncommented, Piece.isComment, Piece.text, Piece.lineEnd]

theorem length_tidied_le (pieces : List Piece) :
    (textOf (tidied pieces)).length ≤ (textOf pieces).length := by
  induction pieces with
  | nil => exact Nat.le_refl _
  | cons p rest ih =>
    have hp := length_uncommented_le p
    rw [tidied]
    split <;> simp only [textOf, List.flatMap_cons, List.flatMap_append, List.length_append]
      at ih hp ⊢ <;> omega

theorem tidy_of_length_eq {pieces : List Piece}
    (h : (textOf (tidied pieces)).length = (textOf pieces).length) : Tidy pieces := by
  induction pieces with
  | nil => exact tidy_nil
  | cons p rest ih =>
    have hp := length_uncommented_le p
    have hrest := length_tidied_le rest
    have hcons : (textOf (p :: rest)).length = p.text.length + (textOf rest).length := by
      simp [textOf]
    rw [tidied] at h
    split at h
    · rename_i hcomma
      have hpos : 0 < p.text.length := by cases p <;> simp [Piece.text]
      omega
    · rename_i hcomma
      have happend : (textOf (p.uncommented ++ tidied rest)).length =
          (textOf p.uncommented).length + (textOf (tidied rest)).length := by
        simp [textOf]
      rw [Bool.and_eq_true] at hcomma
      refine tidy_cons_iff.2 ⟨?_, hcomma, ih (by omega)⟩
      cases hcomment : p.isComment with
      | false => rfl
      | true =>
        rw [if_pos hcomment] at hp
        omega

/-- Of a document there remain the pieces without comments and trailing commas, among them every
string as it was written. A document stays as it is exactly when it has neither. -/
theorem passes_tidy_pieces (d : Document) :
    toPlain d.text = textOf (tidied d.pieces) ∧
    (tidied d.pieces).filterMap Piece.string? = d.pieces.filterMap Piece.string? ∧
    (toPlain d.text = d.text ↔ Tidy d.pieces ∧ d.openComment = none) := by
  refine ⟨toPlain_text d, tidied_strings d.pieces, fun h => ?_, fun ⟨htidy, hopen⟩ => ?_⟩
  · rw [toPlain_text] at h
    have hlength := congrArg List.length h
    have hle := length_tidied_le d.pieces
    rw [Document.text, List.length_append] at hlength
    refine ⟨tidy_of_length_eq (by omega), ?_⟩
    have hopen : d.openText.length = 0 := by omega
    unfold Document.openText at hopen
    split at hopen
    · cases hopen
    · assumption
  · rw [toPlain_text, tidied_eq_self htidy, Document.text, Document.openText, hopen]
    simp

-- a comment between a comma and its closer, and comment marks in a string
example : toPlain "[\"/*,]\\\"//\", /*/ ,] */ 1, /***/ // \x7d\n ,, ]".toList =
    "[\"/*,]\\\"//\",  1,  \n , ]".toList := by
  decide

end RouteAtlas.Json.Relaxed
