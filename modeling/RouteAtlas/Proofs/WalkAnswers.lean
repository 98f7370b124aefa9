import RouteAtlas.Proofs.ContainerContents

set_option autoImplicit false

namespace RouteAtlas.Reference

open Script Tracing

def Walk.deeper (w : Walk) : Walk := { w with depth := w.depth + 1 }

def Walk.following (w : Walk) (id : Nat) : Walk := { w with decls := id :: w.decls }

def Walk.searching (w : Walk) (key : Nat × String) : Walk :=
  { w with depth := w.depth + 1, exports := key :: w.exports }

section Answers

variable {ws : Workspace}

theorem answer_value (w : Walk) (o : Origin) (e : Node) :
    answer ws w (.value o e) =
      if maxDepth ≤ w.depth then none else answer ws w.deeper (.plainValue o e.unwrap) := by
  rw [answer, trace_follow]
  change ((if maxDepth ≤ w.depth then do
      debug "symbol resolution depth limit reached"
      return none
    else deeper (trace ws (.plainValue o e.unwrap)) : Tracing (Option Value)) w).value.1 = _
  by_cases h : maxDepth ≤ w.depth
  · rw [if_pos h, if_pos h]
    rfl
  · rw [if_neg h, if_neg h]
    rfl

theorem answer_object (w : Walk) (o : Origin) (span : Span) (properties : List Node) :
    answer ws w (.plainValue o (.object span properties)) =
      some (.object ⟨o, span, properties⟩) := by
  rw [answer, trace_follow]
  rfl

theorem answer_ident (w : Walk) (o : Origin) (span : Span) (name : String) :
    answer ws w (.plainValue o (.ident span name)) = answer ws w (.nameValue o.file name) := by
  rw [answer, trace_follow]
  simp only [follow, plainValue]
  rfl

theorem answer_nameValue (w : Walk) {file id : Nat} {name : String}
    (h : ws.binding? file name = some id) :
    answer ws w (.nameValue file name) = answer ws w (.declValue id) := by
  rw [answer, trace_follow]
  simp only [follow, nameValue, h]
  rfl

theorem answer_declValue (w : Walk) {id : Nat} {d : Declaration}
    (hd : ws.project.decls[id]? = some d) (hnew : id ∉ w.decls) :
    answer ws w (.declValue id) =
      match d.kind with
      | .value e => answer ws (w.following id) (.value ⟨d.file, .declaration⟩ e)
      | .imported specifier name => answer ws (w.following id) (.importValue d.file specifier name)
      | .noValue => none := by
  rw [answer, trace_follow]
  simp only [follow, declValue, hd]
  change ((if w.decls.contains id then do
      debug _
      return none
    else following id _ : Tracing (Option Value)) w).value.1 = _
  rw [if_neg (by simpa using hnew)]
  cases d.kind <;> rfl

theorem answer_importValue (w : Walk) {file target : Nat} {specifier : String}
    (imported : ImportedName) (h : ws.resolveImport? file specifier = some target) :
    answer ws w (.importValue file specifier imported) =
      match imported with
      | .namespace => some (.namespace target)
      | .default => answer ws w (.exportValue target "default")
      | .named name => answer ws w (.exportValue target name) := by
  rw [answer, trace_follow]
  simp only [follow, importValue, h]
  cases imported <;> rfl

theorem answer_exportValue_own (w : Walk) {file id : Nat} {name : String}
    (h : ws.export? file name = some id) :
    answer ws w (.exportValue file name) = answer ws w (.declValue id) := by
  rw [answer, trace_follow]
  simp only [follow, exportValue, h]
  rfl

theorem answer_exportValue_stars (w : Walk) {file : Nat} {name : String}
    (h : ws.export? file name = none) (hname : name ≠ "default") :
    answer ws w (.exportValue file name) =
      if maxDepth ≤ w.depth ∨ (file, name) ∈ w.exports then none
      else (ws.starTargets file).findSome? fun target =>
        answer ws (w.searching (file, name)) (.exportValue target name) := by
  rw [answer, trace_follow]
  simp only [follow, exportValue, h]
  change ((if decide (name = "default") || decide (maxDepth ≤ w.depth) ||
      w.exports.contains (file, name) then pure none
    else searching (file, name) <| deeper <|
      firstFound (fun target => trace ws (.exportValue target name)) (ws.starTargets file)
    : Tracing (Option Value)) w).value.1 = _
  by_cases hbars : maxDepth ≤ w.depth ∨ (file, name) ∈ w.exports
  · rw [if_pos (by simpa [hname] using hbars), if_pos hbars]
    rfl
  · rw [if_neg (by simpa [hname] using hbars), if_neg hbars]
    change (firstFound (fun target => trace ws (.exportValue target name)) (ws.starTargets file)
      (w.searching (file, name))).value.1 = _
    rw [Quiet.firstFound_value fun target _ => trace_quiet ws (.exportValue target name) trivial]
    rfl

end Answers

def literal? (ws : Workspace) (id : Nat) : Option ObjectRef :=
  (ws.project.decls[id]?).bind fun d =>
    match d.kind with
    | .value e =>
      match e.unwrap with
      | .object span properties => some ⟨⟨d.file, .declaration⟩, span, properties⟩
      | _ => none
    | _ => none

theorem answer_literal {ws : Workspace} (w : Walk) {id : Nat} {obj : ObjectRef}
    (h : literal? ws id = some obj) (hnew : id ∉ w.decls) :
    answer ws w (.declValue id) = if maxDepth ≤ w.depth then none else some (.object obj) := by
  unfold literal? at h
  obtain ⟨d, hd, h⟩ := Option.bind_eq_some_iff.1 h
  rw [answer_declValue w hd hnew]
  split at h
  · rename_i e hkind
    rw [hkind]
    split at h
    · rename_i span properties he
      cases h
      change answer ws (w.following id) (.value ⟨d.file, .declaration⟩ e) = _
      rw [answer_value, he, answer_object]
      rfl
    · cases h
  · cases h

end RouteAtlas.Reference
