import RouteAtlas.Proofs.WalkAnswers

set_option autoImplicit false

/-!
# How deep a chain of references goes

From a name a walk may go through aliases, imports and re-exports until it comes to an object
literal. An alias takes it one level deeper, and so does each `export *` on the way from an import
to the declaration it means. Imports and re-exports themselves cost nothing.
-/
namespace RouteAtlas.Reference

open Script

/-- The declaration that an alias means: its initial value is a name, which is bound in the file of
the alias. -/
def aliased? (ws : Workspace) (id : Nat) : Option Nat :=
  (ws.project.decls[id]?).bind fun d =>
    match d.kind with
    | .value e =>
      match e.unwrap with
      | .ident _ name => ws.binding? d.file name
      | _ => none
    | _ => none

/-- The module that an import or a re-export leads to, and the name it asks for there. -/
def requested? (ws : Workspace) (id : Nat) : Option (Nat × String) :=
  (ws.project.decls[id]?).bind fun d =>
    match d.kind with
    | .imported specifier .default =>
      (ws.resolveImport? d.file specifier).map fun target => (target, "default")
    | .imported specifier (.named name) =>
      (ws.resolveImport? d.file specifier).map fun target => (target, name)
    | _ => none

/-- A module exports a name as a declaration, itself or through as many modules as the number says.
Each of these has a single `export *` and does not export the name. -/
inductive ExportedAs (ws : Workspace) (name : String) : Nat → Nat → Nat → Prop
  | own {file id : Nat} (h : ws.export? file name = some id) : ExportedAs ws name file 0 id
  | star {file target stars id : Nat} (hname : name ≠ "default")
      (h : ws.export? file name = none) (htarget : ws.starTargets file = [target])
      (rest : ExportedAs ws name target stars id) : ExportedAs ws name file (stars + 1) id

/-- Declarations each of which means the next one, and the last one is an object literal. The
numbers are those of the aliases and of the `export *` between them. -/
inductive ReferenceChain (ws : Workspace) : List Nat → Nat → Nat → ObjectRef → Prop
  | literal {id : Nat} {obj : ObjectRef} (h : literal? ws id = some obj) :
      ReferenceChain ws [id] 0 0 obj
  | byName {id next aliases stars : Nat} {rest : List Nat} {obj : ObjectRef}
      (h : aliased? ws id = some next)
      (chain : ReferenceChain ws (next :: rest) aliases stars obj) :
      ReferenceChain ws (id :: next :: rest) (aliases + 1) stars obj
  | byImport {id target next passed aliases stars : Nat} {name : String} {rest : List Nat}
      {obj : ObjectRef} (h : requested? ws id = some (target, name))
      (hexport : ExportedAs ws name target passed next)
      (chain : ReferenceChain ws (next :: rest) aliases stars obj) :
      ReferenceChain ws (id :: next :: rest) aliases (passed + stars) obj

variable {ws : Workspace}

theorem answer_aliased (w : Walk) {id next : Nat} (h : aliased? ws id = some next)
    (hnew : id ∉ w.decls) :
    answer ws w (.declValue id) =
      if maxDepth ≤ w.depth then none
      else answer ws (w.following id).deeper (.declValue next) := by
  unfold aliased? at h
  obtain ⟨d, hd, h⟩ := Option.bind_eq_some_iff.1 h
  rw [answer_declValue w hd hnew]
  split at h
  · rename_i e hkind
    rw [hkind]
    split at h
    · rename_i span name he
      change answer ws (w.following id) (.value ⟨d.file, .declaration⟩ e) = _
      rw [answer_value, he, answer_ident, answer_nameValue _ h]
      rfl
    · cases h
  · cases h

theorem answer_requested (w : Walk) {id target : Nat} {name : String}
    (h : requested? ws id = some (target, name)) (hnew : id ∉ w.decls) :
    answer ws w (.declValue id) = answer ws (w.following id) (.exportValue target name) := by
  unfold requested? at h
  obtain ⟨d, hd, h⟩ := Option.bind_eq_some_iff.1 h
  rw [answer_declValue w hd hnew]
  split at h
  · rename_i specifier hkind
    obtain ⟨_, htarget, heq⟩ := Option.map_eq_some_iff.1 h
    cases heq
    rw [hkind]
    exact answer_importValue _ .default htarget
  · rename_i specifier name' hkind
    obtain ⟨_, htarget, heq⟩ := Option.map_eq_some_iff.1 h
    cases heq
    rw [hkind]
    exact answer_importValue _ (.named name) htarget
  · cases h

theorem ExportedAs.unique {name : String} {file stars stars' id id' : Nat}
    (h : ExportedAs ws name file stars id) (h' : ExportedAs ws name file stars' id') :
    stars = stars' ∧ id = id' := by
  induction h generalizing stars' with
  | own hid =>
    cases h' with
    | own hid' => exact ⟨rfl, Option.some.inj (hid.symm.trans hid')⟩
    | star _ hnone _ _ => rw [hid] at hnone; cases hnone
  | star _ hnone htarget _ ih =>
    cases h' with
    | own hid' => rw [hnone] at hid'; cases hid'
    | star _ _ htarget' rest' =>
      obtain rfl := (List.cons.inj (htarget.symm.trans htarget')).1
      obtain ⟨hstars, hid⟩ := ih rest'
      exact ⟨congrArg (· + 1) hstars, hid⟩

/-- The search for an export costs one level for each `export *` and then gives what the declaration
gives. The second hypothesis says that the search does not come back to a module: those it is in
the middle of lie further from the declaration. -/
theorem answer_exportedAs {name : String} {file stars id : Nat} (cost : Nat) {v : Value}
    {w : Walk} (h : ExportedAs ws name file stars id)
    (haway : ∀ key ∈ w.exports, ∀ k, ExportedAs ws key.2 key.1 k id → stars < k)
    (hdecl : ∀ w' : Walk, w'.decls = w.decls →
      (∀ key ∈ w'.exports, key ∈ w.exports ∨ ∃ k, ExportedAs ws key.2 key.1 k id) →
      answer ws w' (.declValue id) = if w'.depth + cost < maxDepth then some v else none) :
    answer ws w (.exportValue file name) =
      if w.depth + (stars + cost) < maxDepth then some v else none := by
  induction h generalizing w with
  | own hid =>
    rw [answer_exportValue_own w hid, Nat.zero_add]
    exact hdecl w rfl fun key hkey => .inl hkey
  | @star file target stars id hname hnone htarget rest ih =>
    have hself : ExportedAs ws name file (stars + 1) id := .star hname hnone htarget rest
    have hnew : (file, name) ∉ w.exports := fun hmem =>
      Nat.lt_irrefl _ (haway (file, name) hmem _ hself)
    rw [answer_exportValue_stars w hnone hname, htarget]
    by_cases hdeep : maxDepth ≤ w.depth
    · rw [if_pos (.inl hdeep), if_neg (by omega)]
    · have hopen : ¬(maxDepth ≤ w.depth ∨ (file, name) ∈ w.exports) := by
        rintro (hle | hmem)
        · exact hdeep hle
        · exact hnew hmem
      have hnext : answer ws (w.searching (file, name)) (.exportValue target name) =
          if (w.searching (file, name)).depth + (stars + cost) < maxDepth then some v
          else none := by
        refine ih (fun key hkey k hk => ?_) fun w' hdecls hexports => hdecl w' hdecls ?_
        · rcases List.mem_cons.1 hkey with rfl | hkey
          · have hstars := (hself.unique hk).1
            omega
          · have hlt := haway key hkey k hk
            omega
        · intro key hkey
          rcases hexports key hkey with hkey | hkey
          · rcases List.mem_cons.1 hkey with rfl | hkey
            · exact .inr ⟨_, hself⟩
            · exact .inl hkey
          · exact .inr hkey
      have hdepth : (w.searching (file, name)).depth + (stars + cost) =
          w.depth + (stars + 1 + cost) := by
        change w.depth + 1 + (stars + cost) = _
        omega
      rw [if_neg hopen, List.findSome?_singleton, hnext, hdepth]

/-- A walk that has gone through none of the declarations, and is in the middle of searching for
none of those that come after the first, follows the chain to its end if that is not too deep. -/
theorem answer_referenceChain {first aliases stars : Nat} {rest : List Nat} {obj : ObjectRef}
    {w : Walk} (h : ReferenceChain ws (first :: rest) aliases stars obj)
    (hdistinct : (first :: rest).Nodup) (hnew : ∀ id ∈ first :: rest, id ∉ w.decls)
    (hsearched : ∀ key ∈ w.exports, ∀ k, ∀ id ∈ rest, ¬ExportedAs ws key.2 key.1 k id) :
    answer ws w (.declValue first) =
      if w.depth + (aliases + stars) < maxDepth then some (.object obj) else none := by
  generalize hids : first :: rest = ids at h
  induction h generalizing w first rest with
  | @literal id obj h =>
    obtain ⟨rfl, rfl⟩ := List.cons.inj hids
    rw [answer_literal w h (hnew first (by simp))]
    by_cases hdeep : maxDepth ≤ w.depth
    · rw [if_pos hdeep, if_neg (by omega)]
    · rw [if_neg hdeep, if_pos (by omega)]
  | @byName id next aliases stars rest' obj h chain ih =>
    obtain ⟨rfl, rfl⟩ := List.cons.inj hids
    obtain ⟨hfirst, hdistinct⟩ := List.nodup_cons.1 hdistinct
    rw [answer_aliased w h (hnew first (by simp))]
    by_cases hdeep : maxDepth ≤ w.depth
    · rw [if_pos hdeep, if_neg (by omega)]
    · have hnext := ih (w := (w.following first).deeper) hdistinct ?_ ?_ rfl
      · have hdepth : (w.following first).deeper.depth + (aliases + stars) =
            w.depth + (aliases + 1 + stars) := by
          change w.depth + 1 + (aliases + stars) = _
          omega
        rw [if_neg hdeep, hnext, hdepth]
      · intro id hid hmem
        rcases List.mem_cons.1 hmem with rfl | hmem
        · exact hfirst hid
        · exact hnew id (List.mem_cons_of_mem _ hid) hmem
      · exact fun key hkey k id hid => hsearched key hkey k id (List.mem_cons_of_mem _ hid)
  | @byImport id target next passed aliases stars name rest' obj h hexport chain ih =>
    obtain ⟨rfl, rfl⟩ := List.cons.inj hids
    obtain ⟨hfirst, hdistinct⟩ := List.nodup_cons.1 hdistinct
    obtain ⟨hnext, _⟩ := List.nodup_cons.1 hdistinct
    rw [answer_requested w h (hnew first (by simp)),
      answer_exportedAs (aliases + stars) (v := .object obj) hexport ?_ ?_]
    · have hdepth : (w.following first).depth + (passed + (aliases + stars)) =
          w.depth + (aliases + (passed + stars)) := by
        change w.depth + (passed + (aliases + stars)) = _
        omega
      rw [hdepth]
    · exact fun key hkey k hk => absurd hk (hsearched key hkey k next (by simp))
    · intro w' hdecls hexports
      refine ih hdistinct (fun id hid hmem => ?_) (fun key hkey k id hid hk => ?_) rfl
      · rw [hdecls] at hmem
        rcases List.mem_cons.1 hmem with rfl | hmem
        · exact hfirst hid
        · exact hnew id (List.mem_cons_of_mem _ hid) hmem
      -- a search of this step leads to the next declaration, so to none after it
      · rcases hexports key hkey with hkey | ⟨k', hk'⟩
        · exact hsearched key hkey k id (List.mem_cons_of_mem _ hid) hk
        · exact hnext ((hk'.unique hk).2 ▸ hid)

theorem resolveObject_value (ws : Workspace) (o : Origin) (e : Node) :
    (resolveObject ws o e).value =
      match answer ws {} (.value o e) with
      | some (.object obj) => some obj
      | _ => none := by
  change (match answer ws {} (.value o e) with
    | some (.object obj) => pure (some obj)
    | _ => do
      Logged.debug _
      return none : Logged (Option ObjectRef)).value = _
  split <;> rfl

/-- A name that is bound to the first declaration of a chain stands for the literal at its end, with
the file in which that is written, if aliases and `export *` together are at most 30, and for
nothing otherwise. Imports and re-exports do not count. -/
theorem chains_resolved_up_to_depth (ws : Workspace) (o : Origin) (span : Span) (name : String)
    (ids : List Nat) (aliases stars : Nat) (obj : ObjectRef)
    (hchain : ReferenceChain ws ids aliases stars obj) (hdistinct : ids.Nodup)
    (hbound : ids.head? = ws.binding? o.file name) :
    (resolveObject ws o (.ident span name)).value =
      if aliases + stars ≤ 30 then some obj else none := by
  cases ids with
  | nil => cases hchain
  | cons first rest =>
    have hdecl : answer ws ({} : Walk).deeper (.declValue first) =
        if 1 + (aliases + stars) < maxDepth then some (.object obj) else none :=
      answer_referenceChain hchain hdistinct (by simp [Walk.deeper]) (by simp [Walk.deeper])
    have hname : (Node.ident span name).unwrap = .ident span name := by simp [Node.unwrap]
    rw [resolveObject_value, answer_value, if_neg (by decide), hname, answer_ident,
      answer_nameValue _ hbound.symm, hdecl]
    by_cases hcost : aliases + stars ≤ 30
    · have hopen : 1 + (aliases + stars) < maxDepth := by
        change _ < 32
        omega
      rw [if_pos hcost, if_pos hopen]
    · have hdeep : ¬1 + (aliases + stars) < maxDepth := by
        change ¬_ < 32
        omega
      rw [if_neg hcost, if_neg hdeep]

def windingName : Workspace :=
  let disk : Disk := ⟨[], .dir [("p", .dir [
    ("a.ts", .file (String.toUTF8 "import \x7b x as y \x7d from './b'\nconst z = y")),
    ("b.ts", .file (String.toUTF8 "export * from './c'")),
    ("c.ts", .file (String.toUTF8 "export \x7b default as x \x7d from './d'")),
    ("d.ts", .file (String.toUTF8 "const v = \x7b\x7d\nexport default v"))])]⟩
  let files : List Location := [["p", "a.ts"], ["p", "b.ts"], ["p", "c.ts"], ["p", "d.ts"]]
  ⟨disk, (Project.loadAll disk { root := ["p"], imports := {} } files).value⟩

theorem winding_name_resolved :
    ∃ obj, ReferenceChain windingName [1, 0, 2, 4, 3] 2 1 obj ∧ [1, 0, 2, 4, 3].Nodup ∧
      [1, 0, 2, 4, 3].head? = windingName.binding? 0 "z" ∧ obj.origin.file = 3 ∧
      (resolveObject windingName ⟨0, .declaration⟩ (.ident ⟨0, 1⟩ "z")).value = some obj := by
  -- what the modules declare and export, in the order of the chain
  have hsteps : aliased? windingName 1 = some 0 ∧ requested? windingName 0 = some (1, "x") ∧
      windingName.export? 1 "x" = none ∧ windingName.starTargets 1 = [2] ∧
      windingName.export? 2 "x" = some 2 ∧ requested? windingName 2 = some (3, "default") ∧
      windingName.export? 3 "default" = some 4 ∧ aliased? windingName 4 = some 3 ∧
      (literal? windingName 3).map (·.origin.file) = some 3 ∧
      windingName.binding? 0 "z" = some 1 := by decide +kernel
  obtain ⟨hz, hy, hnone, hstar, hx, hdefault, hexport, hv, hliteral, hbound⟩ := hsteps
  obtain ⟨obj, hobj, hfile⟩ := Option.map_eq_some_iff.1 hliteral
  have hchain : ReferenceChain windingName [1, 0, 2, 4, 3] 2 1 obj :=
    .byName hz (.byImport hy (.star (by decide) hnone hstar (.own hx))
      (.byImport hdefault (.own hexport) (.byName hv (.literal hobj))))
  exact ⟨obj, hchain, by decide, hbound.symm, hfile,
    chains_resolved_up_to_depth windingName ⟨0, .declaration⟩ ⟨0, 1⟩ "z" _ 2 1 obj hchain
      (by decide) hbound.symm⟩

end RouteAtlas.Reference
