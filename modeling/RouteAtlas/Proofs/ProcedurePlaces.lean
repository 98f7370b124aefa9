import RouteAtlas.Proofs.LoadedProject
import RouteAtlas.Proofs.RouterWalks

set_option autoImplicit false

namespace RouteAtlas

open Script

def SourceFile.HasLine (f : SourceFile) (line : Nat) : Prop :=
  ∃ s ∈ f.module.spans, f.lineOf s = line

theorem SourceFile.hasLine_of_mem {f : SourceFile} {n : Node} (h : n ∈ f.module.preorder) :
    f.HasLine (f.lineOf n.span) :=
  ⟨n.span, Module.span_mem_spans h, rfl⟩

/-- A file of a project with a line of one of its syntax nodes. -/
def Project.HasPlace (p : Project) (path : String) (line : Nat) : Prop :=
  ∃ f ∈ p.files, f.path = path ∧ f.HasLine line

theorem Project.Indexed.getElem?_id {p : Project} (h : p.Indexed) {f : SourceFile}
    (hf : f ∈ p.files) : p.files[f.id]? = some f := by
  obtain ⟨i, hi⟩ := List.getElem?_of_mem hf
  rw [h.id_eq i f hi, hi]

theorem Workspace.hasPlace {ws : Workspace} {file : Nat} {f : SourceFile} {line : Nat}
    (hf : ws.project.files[file]? = some f) (h : f.HasLine line) :
    ws.project.HasPlace (ws.path file) line :=
  ⟨f, List.mem_of_getElem? hf, by simp [Workspace.path, hf], h⟩

namespace Rpc

variable {m : Matcher} {md : Module}

theorem boundNodes_mem {outer : Option Binder} {n : Node} {b : Option Binder} {x : Node}
    (h : (b, x) ∈ boundNodes outer n) : x ∈ n.preorder := by
  induction outer, n using boundNodes.induct with
  | case1 outer n ih =>
    rw [boundNodes] at h
    rcases List.mem_cons.1 h with h | h
    · cases h
      exact Node.self_mem_preorder _
    · obtain ⟨⟨c, hc⟩, _, hx⟩ := List.mem_flatMap.1 h
      exact Node.preorder_subset_of_mem (Node.child_mem_preorder hc) (ih c hc hx)

theorem boundCalls_mem {b : Option Binder} {c : Call} (h : (b, c) ∈ boundCalls md) :
    c.toNode ∈ md.preorder := by
  obtain ⟨⟨b', n⟩, hn, h⟩ := List.mem_filterMap.1 h
  obtain ⟨top, htop, hn⟩ := List.mem_flatMap.1 hn
  obtain ⟨call, hcall, heq⟩ := Option.map_eq_some_iff.1 h
  cases heq
  rw [← Node.asCall?_eq_some.1 hcall]
  exact List.mem_flatMap.2 ⟨top, htop, boundNodes_mem hn⟩

theorem innerCalls_mem {callee : Node} (h : callee ∈ md.preorder) :
    ∀ c ∈ innerCalls callee, c.toNode ∈ md.preorder :=
  fun _ hc => Module.mem_preorder_of_mem h (innerCalls_mem_preorder hc)

theorem chain_mem {c : Call} (h : c.toNode ∈ md.preorder) :
    ∀ d ∈ chain c, d.toNode ∈ md.preorder := by
  rintro d (_ | ⟨_, hd⟩)
  · exact h
  · refine innerCalls_mem (Module.mem_preorder_child h ?_) d hd
    simp [Call.toNode, Node.children]

theorem routerOf?_mem {c router : Call} {outer : List Call}
    (h : routerOf? m c = some (router, outer)) : ∀ d ∈ router :: outer, d ∈ chain c := by
  unfold routerOf? at h
  split at h
  · rename_i router' outer' heq
    cases h
    intro d hd
    rw [← heq] at hd
    exact List.mem_reverse.1 ((List.dropWhile_sublist _).mem hd)
  · cases h

theorem methodName?_mem {c : Call} {name : String} {span : Span}
    (h : methodName? c = some (name, span)) (hc : c.toNode ∈ md.preorder) :
    Node.ident span name ∈ md.preorder := by
  unfold methodName? at h
  split at h
  · rename_i base _ _ heq
    cases h
    have hcallee := Module.mem_preorder_child hc (c := c.callee) (by simp [Call.toNode, Node.children])
    have hu := Module.mem_preorder_unwrap hcallee
    rw [heq] at hu
    exact Module.mem_preorder_child hu (by simp [Node.children])
  · cases h

theorem argumentProperties_mem {c : Call} (hc : c.toNode ∈ md.preorder) :
    ∀ p ∈ argumentProperties c, p ∈ md.preorder := by
  unfold argumentProperties
  split
  · rename_i span properties heq
    obtain ⟨arg, harg, heq⟩ := Option.map_eq_some_iff.1 heq
    have hobj := Module.mem_preorder_unwrap (Module.mem_preorder_of_firstArg? hc harg)
    rw [heq] at hobj
    exact fun p hp => Module.mem_preorder_child hobj hp
  · simp

theorem namedHere_mem {read : List Span} {n : Node} {name : String} {kind : ProcedureKind}
    {span : Span} (hn : n ∈ md.preorder) (h : (namedHere m read n).1 = some (name, kind, span)) :
    ∃ method, Node.ident span method ∈ md.preorder := by
  unfold namedHere at h
  split at h
  · dsimp only at h
    split at h
    · cases h
    · split at h
      · rename_i found hfound
        cases h
        simp only [namedProcedure?, Option.bind_eq_bind, Option.bind_eq_some_iff] at hfound
        obtain ⟨⟨method, span'⟩, hmethod, kind', _, name', _, base, _, heq⟩ := hfound
        split at heq
        · cases heq
          exact ⟨method, methodName?_mem hmethod hn⟩
        · cases heq
      · cases h
  · cases h
  · cases h

theorem namedProcedures_mem {read : List Span} {n : Node} (hn : n ∈ md.preorder) :
    ∀ found ∈ namedProcedures m read n, ∃ method, Node.ident found.2.2 method ∈ md.preorder := by
  induction n using namedProcedures.induct m read with
  | case1 n ih =>
    intro found hfound
    rw [namedProcedures] at hfound
    rcases List.mem_append.1 hfound with h | h
    · exact namedHere_mem hn (Option.mem_toList.1 h)
    · obtain ⟨⟨c, hc⟩, _, hfound⟩ := List.mem_flatMap.1 h
      exact ih c hc (Module.mem_preorder_child hn (namedHere_subset m read n hc)) found hfound

theorem firstOfEachName_subset (seen : List String) (ps : List Procedure) :
    firstOfEachName seen ps ⊆ ps := by
  induction ps generalizing seen with
  | nil => exact List.Subset.refl _
  | cons p rest ih =>
    unfold firstOfEachName
    split
    · exact List.Subset.trans (ih seen) (List.subset_cons_self _ _)
    · exact List.cons_subset_cons _ (ih _)

variable {f : SourceFile}

theorem readProperty_line {p : Node} {part : Part × Option Span} {proc : Procedure}
    (hp : p ∈ f.module.preorder) (h : readProperty m f.lineOf p = some part)
    (hproc : part.1.procedure? = some proc) : f.HasLine proc.line := by
  unfold readProperty at h
  split at h
  · rename_i span key value
    obtain ⟨name, _, h⟩ := Option.bind_eq_some_iff.1 h
    split at h
    · cases h
      cases hproc
      exact f.hasLine_of_mem (Module.mem_preorder_child hp (by simp [Node.children]))
    · obtain ⟨target, _, h⟩ := Option.bind_eq_some_iff.1 h
      cases h
      cases hproc
  · cases h
    cases hproc
  · cases h

theorem readOuter_line {c : Call} {part : Part} {proc : Procedure}
    (hc : c.toNode ∈ f.module.preorder) (h : readOuter m f.lineOf c = some part)
    (hproc : part.procedure? = some proc) : f.HasLine proc.line := by
  unfold readOuter at h
  obtain ⟨⟨method, span⟩, hmethod, h⟩ := Option.bind_eq_some_iff.1 h
  dsimp only at h
  split at h
  · obtain ⟨name, _, h⟩ := Option.bind_eq_some_iff.1 h
    cases h
    cases hproc
    exact SourceFile.hasLine_of_mem (methodName?_mem hmethod hc)
  · split at h
    · obtain ⟨⟨key, target⟩, _, h⟩ := Option.bind_eq_some_iff.1 h
      obtain ⟨mount, _, h⟩ := Option.bind_eq_some_iff.1 h
      cases h
      cases hproc
    · cases h

theorem makeSite_line {binder : Option Binder} {router : Call} {outer : List Call}
    (h : ∀ c ∈ router :: outer, c.toNode ∈ f.module.preorder) :
    ∀ p ∈ (makeSite m f binder router outer).procedures, f.HasLine p.line := by
  intro p hp
  have hrouter := h router (by simp)
  rcases List.mem_append.1 (firstOfEachName_subset _ _ hp) with hp | hp
  · rcases List.mem_append.1 hp with hp | hp
    · obtain ⟨part, hpart, hproc⟩ := List.mem_filterMap.1 hp
      obtain ⟨property, hproperty, hread⟩ := List.mem_filterMap.1 hpart
      exact readProperty_line (argumentProperties_mem hrouter property hproperty) hread hproc
    · obtain ⟨found, hfound, rfl⟩ := List.mem_map.1 hp
      obtain ⟨_, hshown, hfound⟩ := List.mem_flatMap.1 hfound
      obtain ⟨arg, harg, rfl⟩ := List.mem_map.1 hshown
      have hmem := Module.mem_preorder_child hrouter (c := arg) (by
        simp [Call.toNode, Node.children, harg])
      obtain ⟨method, hmethod⟩ :=
        namedProcedures_mem (Module.mem_preorder_withoutSpread hmem) found hfound
      exact SourceFile.hasLine_of_mem hmethod
  · obtain ⟨part, hpart, hproc⟩ := List.mem_filterMap.1 hp
    obtain ⟨c, hc, hread⟩ := List.mem_filterMap.1 hpart
    exact readOuter_line (h c (by simp [hc])) hread hproc

theorem makeSite_file (m : Matcher) (f : SourceFile) (binder : Option Binder) (router : Call)
    (outer : List Call) : (makeSite m f binder router outer).file = f.id := rfl

theorem claimSites_line {claimed : List Span} {calls : List (Option Binder × Call)}
    (h : ∀ b c, (b, c) ∈ calls → c.toNode ∈ f.module.preorder) :
    ∀ s ∈ claimSites m f claimed calls, s.file = f.id ∧ ∀ p ∈ s.procedures, f.HasLine p.line := by
  fun_induction claimSites m f claimed calls with
  | case1 => simp
  | case2 claimed b c rest router outer hrouter hclaimed ih =>
    exact ih fun b' c' hc => h b' c' (by simp [hc])
  | case3 claimed b c rest router outer hrouter hclaimed ih =>
    rintro s (_ | ⟨_, hs⟩)
    · refine ⟨makeSite_file .., makeSite_line fun d hd => ?_⟩
      exact chain_mem (h b c (by simp)) d (routerOf?_mem hrouter d hd)
    · exact ih (fun b' c' hc => h b' c' (by simp [hc])) s hs
  | case4 claimed b c rest hrouter ih => exact ih fun b' c' hc => h b' c' (by simp [hc])

theorem sitesOf_line {s : RouterSite} (h : s ∈ sitesOf m f) :
    s.file = f.id ∧ ∀ p ∈ s.procedures, f.HasLine p.line :=
  claimSites_line (fun _ _ => boundCalls_mem) s h

theorem procedureVarsOf_line {v : ProcedureVar} (h : v ∈ procedureVarsOf m f) :
    v.file = f.id ∧ f.HasLine v.line := by
  obtain ⟨n, hn, h⟩ := List.mem_filterMap.1 h
  split at h
  · obtain ⟨kind, _, rfl⟩ := Option.map_eq_some_iff.1 h
    exact ⟨rfl, SourceFile.hasLine_of_mem hn⟩
  · cases h

open RouterGraph

variable {ws : Workspace} {o : RpcOptions}

theorem resolve?_procedure {g : RouterGraph} {site : RouterSite} {target : MountTarget}
    {kind : ProcedureKind} {line : Nat} (h : resolve? ws g site target = some (.procedure kind line)) :
    ∃ v ∈ g.procedureVars, v.file = site.file ∧ v.line = line := by
  unfold resolve? at h
  split at h
  · obtain ⟨_, _, h⟩ := Option.map_eq_some_iff.1 h
    cases h
  · split at h
    · cases h
    · split at h
      · rename_i v hv
        cases h
        have hfile := List.find?_some hv
        simp only [Bool.and_eq_true, decide_eq_true_eq] at hfile
        exact ⟨v, List.mem_reverse.1 (List.mem_of_find?_eq_some hv), hfile.1, rfl⟩
      · obtain ⟨_, _, h⟩ := Option.map_eq_some_iff.1 h
        cases h

theorem exit_line (h : ws.project.Indexed) {i : Nat} {name : String} {kind : ProcedureKind}
    {line : Nat} (hexit : .item name kind line ∈ exits ws (routerGraph ws o) i) :
    ∃ f, ws.project.files[(routerGraph ws o).fileOf i]? = some f ∧ f.HasLine line := by
  unfold exits at hexit
  split at hexit
  · simp at hexit
  · split at hexit
    · rename_i site hsite
      simp only [fileOf, hsite, Option.map_some, Option.getD_some]
      rcases List.mem_append.1 hexit with hexit | hexit
      · obtain ⟨p, hp, heq⟩ := List.mem_map.1 hexit
        cases heq
        obtain ⟨f, hf, hmem⟩ := List.mem_flatMap.1 (List.mem_of_getElem? hsite)
        obtain ⟨hfile, hline⟩ := sitesOf_line hmem
        exact ⟨f, hfile ▸ h.getElem?_id hf, hline p hp⟩
      · obtain ⟨mount, _, hexit⟩ := List.mem_filterMap.1 hexit
        unfold mountExit? at hexit
        split at hexit
        · cases hexit
        · rename_i hresolve
          cases hexit
          obtain ⟨v, hv, hfile, rfl⟩ := resolve?_procedure hresolve
          obtain ⟨f, hf, hmem⟩ := List.mem_flatMap.1 hv
          obtain ⟨hid, hline⟩ := procedureVarsOf_line hmem
          exact ⟨f, hfile ▸ hid ▸ h.getElem?_id hf, hline⟩
        · cases hexit
    · cases hexit

theorem handler_line (ws : Workspace) (endpoint : String) (c : Classifier) (f : Found) :
    (handler ws endpoint c f).line = f.line := by
  simp only [handler]
  split <;> rfl

theorem survey_hasPlace (h : ws.project.Indexed) (c : Classifier) :
    ∀ x ∈ (survey ws o c).value, ws.project.HasPlace x.file x.line := by
  intro x hx
  rw [survey_value, procedures_eq_visits, List.map_map] at hx
  obtain ⟨v, hv, rfl⟩ := List.mem_map.1 hx
  obtain ⟨_, hvalid⟩ := mem_visits.1 hv
  obtain ⟨f, hf, hline⟩ := exit_line h (List.mem_of_getElem? hvalid.ends)
  rw [Function.comp_apply, handler_file, handler_line]
  exact Workspace.hasPlace hf hline

end Rpc

end RouteAtlas
