import Mathlib.Logic.Relation
import RouteAtlas.Proofs.WalkAnswers

set_option autoImplicit false

/-!
# The search behind `export *`

A module that does not export a name itself is searched through the modules of which it exports
all names. The search is cut where it comes back to a module it is in the middle of, and where it
is too deep. A shortest way to an exporting module comes back to no module, so neither cut hides
it, whatever the search has tried before.
-/
namespace RouteAtlas.Reference

open Script
open Relation (ReflTransGen)

def StarExports (ws : Workspace) (file target : Nat) : Prop := target ∈ ws.starTargets file

/-- A way along `export *` from a module to the last one, which exports the name itself. The list
has the modules before the last one, and none of them exports the name. -/
inductive StarPath (ws : Workspace) (name : String) : Nat → List Nat → Nat → Prop
  | own {file id : Nat} (h : ws.export? file name = some id) : StarPath ws name file [] file
  | star {file target last : Nat} {passed : List Nat} (h : ws.export? file name = none)
      (htarget : StarExports ws file target) (rest : StarPath ws name target passed last) :
      StarPath ws name file (file :: passed) last

section Search

variable {ws : Workspace} {name : String} {file last : Nat} {passed : List Nat}

theorem StarPath.exports (h : StarPath ws name file passed last) :
    ∃ id, ws.export? last name = some id := by
  induction h with
  | own h => exact ⟨_, h⟩
  | star _ _ _ ih => exact ih

theorem StarPath.reaches (h : StarPath ws name file passed last) :
    ReflTransGen (StarExports ws) file last := by
  induction h with
  | own _ => exact .refl
  | star _ htarget _ ih => exact .head htarget ih

theorem StarPath.suffix (h : StarPath ws name file passed last) {other : Nat}
    (hother : other ∈ passed) :
    ∃ rest, rest <:+ passed ∧ StarPath ws name other rest last := by
  induction h with
  | own _ => cases hother
  | @star file target last passed hnone htarget hpath ih =>
    by_cases heq : other = file
    · subst heq
      exact ⟨other :: passed, List.suffix_refl _, .star hnone htarget hpath⟩
    · have hmem : other ∈ passed := by simpa [heq] using hother
      obtain ⟨rest, hsuffix, hrest⟩ := ih hmem
      exact ⟨rest, hsuffix.trans (List.suffix_cons _ _), hrest⟩

theorem StarPath.exists_simple (h : StarPath ws name file passed last) :
    ∃ simple, simple.length ≤ passed.length ∧ simple.Nodup ∧
      StarPath ws name file simple last := by
  induction h with
  | own h => exact ⟨[], Nat.le_refl _, List.nodup_nil, .own h⟩
  | @star file target last passed hnone htarget _ ih =>
    obtain ⟨simple, hlength, hnodup, hpath⟩ := ih
    by_cases hmem : file ∈ simple
    -- the way comes back to the first module, so what lies before that is left out
    · obtain ⟨rest, hsuffix, hrest⟩ := hpath.suffix hmem
      have hrest_le : rest.length ≤ simple.length := hsuffix.length_le
      refine ⟨rest, ?_, hnodup.sublist hsuffix.sublist, hrest⟩
      rw [List.length_cons]
      omega
    · refine ⟨file :: simple, ?_, List.nodup_cons.2 ⟨hmem, hnodup⟩, .star hnone htarget hpath⟩
      rw [List.length_cons, List.length_cons]
      omega

/-- Wherever the name is exported behind the module, it is a variable with an object literal. -/
def LiteralsBehind (ws : Workspace) (name : String) (file : Nat) : Prop :=
  ∀ last id, ReflTransGen (StarExports ws) file last → ws.export? last name = some id →
    (literal? ws id).isSome

theorem LiteralsBehind.star (h : LiteralsBehind ws name file) {target : Nat}
    (htarget : StarExports ws file target) : LiteralsBehind ws name target :=
  fun last id hreach hid => h last id (.head htarget hreach) hid

variable {w : Walk}

theorem answer_own_literal (hliteral : LiteralsBehind ws name file) {id : Nat}
    (hid : ws.export? file name = some id) (hfree : w.decls = []) :
    ∃ obj, literal? ws id = some obj ∧ answer ws w (.exportValue file name) =
      if maxDepth ≤ w.depth then none else some (.object obj) := by
  obtain ⟨obj, hobj⟩ := Option.isSome_iff_exists.1 (hliteral file id .refl hid)
  refine ⟨obj, hobj, ?_⟩
  rw [answer_exportValue_own w hid, answer_literal w hobj (by simp [hfree])]

/-- A way that comes back to no module is open to the search: what the search tries first may end
it earlier, but nothing keeps it from trying this way. -/
theorem StarPath.answer_isSome (h : StarPath ws name file passed last) (hname : name ≠ "default")
    (hliteral : LiteralsBehind ws name file) (hfree : w.decls = []) (hsimple : passed.Nodup)
    (hnew : ∀ m ∈ passed, (m, name) ∉ w.exports) (hdepth : w.depth + passed.length < maxDepth) :
    (answer ws w (.exportValue file name)).isSome := by
  induction h generalizing w with
  | own hid =>
    obtain ⟨obj, _, hanswer⟩ := answer_own_literal hliteral hid hfree
    have hopen : ¬maxDepth ≤ w.depth := by
      rw [List.length_nil] at hdepth
      omega
    rw [hanswer, if_neg hopen]
    rfl
  | @star file target last passed hnone htarget _ ih =>
    obtain ⟨hfile, hsimple⟩ := List.nodup_cons.1 hsimple
    rw [List.length_cons] at hdepth
    have hopen : ¬(maxDepth ≤ w.depth ∨ (file, name) ∈ w.exports) := by
      rintro (hle | hmem)
      · omega
      · exact hnew file (by simp) hmem
    rw [answer_exportValue_stars w hnone hname, if_neg hopen, List.findSome?_isSome_iff]
    refine ⟨target, htarget, ih (hliteral.star htarget) hfree hsimple ?_ ?_⟩
    · intro m hm hmem
      rcases List.mem_cons.1 hmem with heq | hmem
      · exact hfile ((Prod.mk.inj heq).1 ▸ hm)
      · exact hnew m (by simp [hm]) hmem
    · change w.depth + 1 + passed.length < maxDepth
      omega

theorem exists_starPath_of_answer {v : Value} (hname : name ≠ "default")
    (hliteral : LiteralsBehind ws name file) (hfree : w.decls = [])
    (hanswer : answer ws w (.exportValue file name) = some v) :
    ∃ passed last id obj, StarPath ws name file passed last ∧ w.depth + passed.length < maxDepth ∧
      ws.export? last name = some id ∧ literal? ws id = some obj ∧ v = .object obj := by
  -- each `export *` takes the search one level deeper
  induction hn : maxDepth - w.depth generalizing w file with
  | zero =>
    have hdeep : maxDepth ≤ w.depth := by omega
    cases hid : ws.export? file name with
    | some id =>
      obtain ⟨obj, _, hown⟩ := answer_own_literal hliteral hid hfree
      rw [hown, if_pos hdeep] at hanswer
      cases hanswer
    | none =>
      rw [answer_exportValue_stars w hid hname, if_pos (.inl hdeep)] at hanswer
      cases hanswer
  | succ n ih =>
    have hopen : w.depth < maxDepth := by omega
    cases hid : ws.export? file name with
    | some id =>
      obtain ⟨obj, hobj, hown⟩ := answer_own_literal hliteral hid hfree
      rw [hown, if_neg (by omega)] at hanswer
      exact ⟨[], file, id, obj, .own hid, hopen, hid, hobj, (Option.some.inj hanswer).symm⟩
    | none =>
      rw [answer_exportValue_stars w hid hname] at hanswer
      split at hanswer
      · cases hanswer
      · obtain ⟨target, htarget, hfound⟩ := List.exists_of_findSome?_eq_some hanswer
        have hlevel : maxDepth - (w.searching (file, name)).depth = n := by
          change maxDepth - (w.depth + 1) = n
          omega
        obtain ⟨passed, last, id', obj, hpath, hdepth, hrest⟩ :=
          ih (w := w.searching (file, name)) (hliteral.star htarget) hfree hfound hlevel
        have hdepth' : w.depth + 1 + passed.length < maxDepth := hdepth
        refine ⟨file :: passed, last, id', obj, .star hid htarget hpath, ?_, hrest⟩
        rw [List.length_cons]
        omega

end Search

theorem exportedObject_value (ws : Workspace) (file : Nat) (name : String) :
    (exportedObject ws file name).value =
      match answer ws {} (.exportValue file name) with
      | some (.object obj) => some obj
      | _ => none := by
  change (match answer ws {} (.exportValue file name) with
    | some (.object obj) => pure (some obj)
    | _ => pure none : Logged (Option ObjectRef)).value = _
  split <;> rfl

/-- Where the name is exported as variables with object literals only, a module gives an object for
it exactly when at most 31 steps along `export *` lead to a module that exports it, past modules
that do not. Cycles, several ways to a module and the order of the statements make no difference.
The object that is given is the literal at the end of such a way. -/
theorem star_search_complete (ws : Workspace) (file : Nat) (name : String)
    (hname : name ≠ "default")
    (hliteral : ∀ last id, ReflTransGen (StarExports ws) file last →
      ws.export? last name = some id → (literal? ws id).isSome) :
    ((exportedObject ws file name).value.isSome ↔
      ∃ passed last, passed.length ≤ 31 ∧ StarPath ws name file passed last) ∧
    ∀ obj, (exportedObject ws file name).value = some obj →
      ∃ passed last id, passed.length ≤ 31 ∧ StarPath ws name file passed last ∧
        ws.export? last name = some id ∧ literal? ws id = some obj := by
  have hfound : ∀ v, answer ws {} (.exportValue file name) = some v →
      ∃ passed last id obj, StarPath ws name file passed last ∧ passed.length ≤ 31 ∧
        ws.export? last name = some id ∧ literal? ws id = some obj ∧ v = .object obj := by
    intro v hv
    obtain ⟨passed, last, id, obj, hpath, hdepth, hrest⟩ :=
      exists_starPath_of_answer hname hliteral rfl hv
    have hdepth : 0 + passed.length < 32 := hdepth
    exact ⟨passed, last, id, obj, hpath, by omega, hrest⟩
  rw [exportedObject_value]
  refine ⟨⟨fun h => ?_, ?_⟩, fun obj h => ?_⟩
  · split at h
    · rename_i obj hobj
      obtain ⟨passed, last, _, _, hpath, hlength, _⟩ := hfound _ hobj
      exact ⟨passed, last, hlength, hpath⟩
    · cases h
  · rintro ⟨passed, last, hlength, hpath⟩
    obtain ⟨simple, hle, hnodup, hsimple⟩ := hpath.exists_simple
    have hdepth : ({} : Walk).depth + simple.length < maxDepth := by
      change 0 + simple.length < 32
      omega
    have hsome := hsimple.answer_isSome (w := {}) hname hliteral rfl hnodup (by simp) hdepth
    obtain ⟨v, hv⟩ := Option.isSome_iff_exists.1 hsome
    obtain ⟨_, _, _, obj, _, _, _, _, rfl⟩ := hfound v hv
    rw [hv]
    rfl
  · split at h
    · rename_i found hobj
      obtain rfl := Option.some.inj h
      obtain ⟨passed, last, id, obj, hpath, hlength, hid, hobj, heq⟩ := hfound _ hobj
      obtain rfl := Value.object.inj heq
      exact ⟨passed, last, id, hlength, hpath, hid, hobj⟩
    · cases h

def mutualStars : Workspace :=
  let disk : Disk := ⟨[], .dir [("p", .dir [
    ("a.ts", .file (String.toUTF8 "export * from './b'")),
    ("b.ts", .file (String.toUTF8 "export * from './a'\nexport * from './c'")),
    ("c.ts", .file (String.toUTF8 "export const x = \x7b\x7d"))])]⟩
  let files : List Location := [["p", "a.ts"], ["p", "b.ts"], ["p", "c.ts"]]
  ⟨disk, (Project.loadAll disk { root := ["p"], imports := {} } files).value⟩

theorem mutual_stars_searched :
    "x" ≠ "default" ∧ LiteralsBehind mutualStars "x" 0 ∧
      (exportedObject mutualStars 0 "x").value.isSome ∧
      ∃ passed last, passed.length ≤ 31 ∧ StarPath mutualStars "x" 0 passed last := by
  have hmodules : mutualStars.project.files.length = 3 ∧
      (∀ file < 3, ∀ id ∈ mutualStars.export? file "x", (literal? mutualStars id).isSome) ∧
      (exportedObject mutualStars 0 "x").value.isSome := by decide +kernel
  obtain ⟨hfiles, hexports, hsome⟩ := hmodules
  have hliteral : LiteralsBehind mutualStars "x" 0 := by
    intro file id _ hid
    by_cases hfile : file < 3
    · exact hexports file hfile id hid
    · have hnone : mutualStars.project.files[file]? = none := List.getElem?_eq_none (by omega)
      rw [Workspace.export?, hnone] at hid
      cases hid
  have hsearch := star_search_complete mutualStars 0 "x" (by decide) hliteral
  exact ⟨by decide, hliteral, hsome, hsearch.1.1 hsome⟩

end RouteAtlas.Reference
