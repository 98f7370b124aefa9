import Mathlib.Data.List.Forall2
import Mathlib.Data.List.Nodup
import RouteAtlas.Proofs.RouterWalks
import RouteAtlas.Proofs.SyntaxParts

set_option autoImplicit false

/-!
# Procedures named inside the arguments of a router

The search for such procedures leaves out parts of the arguments: other routers, values that have
been read as a procedure or a mount, and the arguments of a procedure that was found. Here the
search is held against the tree of the arguments: which calls it finds depends only on what they
are and on what lies above them.
-/
namespace RouteAtlas.Script

def Call.argumentTree (c : Call) : Node := .other c.span (c.args.map Node.withoutSpread)

def Node.asKeyValue? : Node → Option (Node × Node)
  | .keyValue _ key value => some (key, value)
  | _ => none

end RouteAtlas.Script

namespace RouteAtlas.Rpc

open Script (Node Call Span)

/-- A call that names a procedure where no part of the tree is left out. -/
structure Names (m : Matcher) (c : Call) : Prop where
  noRouter : ∀ d ∈ chain c, ¬m.isRouterCall d
  kind : ∃ kind, kindOf? c = some kind
  text : ∃ text, firstText? c = some text
  base : ∃ base, chainBase? c = some base ∧ m.isBuilder base

/-- A key with a value that is read as a procedure or as a mount. -/
def IsRead (m : Matcher) (kv : Node × Node) : Prop :=
  kv.1.keyName?.isSome ∧ ((procedureValue? m kv.2).isSome ∨ (mountTarget? m kv.2).isSome)

/-- Values are known by their spans: a property of the router's argument with a value of this span
is read. -/
def ReadValue (m : Matcher) (router : Call) (s : Span) : Prop :=
  ∃ kv ∈ (argumentProperties router).filterMap Node.asKeyValue?, kv.2.span = s ∧ IsRead m kv

theorem readProperty_span_iff {m : Matcher} {lineOf : Span → Nat} {n : Node} {s : Span} :
    (readProperty m lineOf n).bind (·.2) = some s ↔
      ∃ kv, n.asKeyValue? = some kv ∧ kv.2.span = s ∧ IsRead m kv := by
  cases n with
  | keyValue span key value =>
    cases hkey : key.keyName? with
    | none => simp [readProperty, Node.asKeyValue?, IsRead, hkey]
    | some name =>
      cases hprocedure : procedureValue? m value with
      | some kind => simp [readProperty, Node.asKeyValue?, IsRead, hkey, hprocedure]
      | none =>
        cases htarget : mountTarget? m value <;>
          simp [readProperty, Node.asKeyValue?, IsRead, hkey, hprocedure, htarget]
  | shorthand span name => simp [readProperty, Node.asKeyValue?]
  | _ => simp [readProperty, Node.asKeyValue?]

theorem mem_readSpans {m : Matcher} (lineOf : Span → Nat) {router : Call} {s : Span} :
    s ∈ (readProperties m lineOf router).filterMap (·.2) ↔ ReadValue m router s := by
  simp only [readProperties, List.filterMap_filterMap, List.mem_filterMap, ReadValue,
    readProperty_span_iff]
  constructor
  · rintro ⟨n, hn, kv, hkv, hs, hread⟩
    exact ⟨kv, ⟨n, hn, hkv⟩, hs, hread⟩
  · rintro ⟨kv, ⟨n, hn, hkv⟩, hs, hread⟩
    exact ⟨n, hn, kv, hkv, hs, hread⟩

section Search

variable {m : Matcher} {read : List Span}

theorem names_iff {c : Call} :
    Names m c ↔ (chain c).any m.isRouterCall = false ∧ (namedProcedure? m c).isSome := by
  have hrouter : (chain c).any m.isRouterCall = false ↔ ∀ d ∈ chain c, ¬m.isRouterCall d := by
    simp
  rw [hrouter]
  constructor
  · rintro ⟨hnone, ⟨kind, hkind⟩, ⟨text, htext⟩, base, hbase, hbuilder⟩
    obtain ⟨⟨method, span⟩, hmethod, hkind⟩ := Option.bind_eq_some_iff.1 hkind
    refine ⟨hnone, ?_⟩
    simp [namedProcedure?, hmethod, hkind, htext, hbase, hbuilder]
  · rintro ⟨hnone, hnamed⟩
    obtain ⟨found, hfound⟩ := Option.isSome_iff_exists.1 hnamed
    simp only [namedProcedure?, Option.bind_eq_bind, Option.bind_eq_some_iff] at hfound
    obtain ⟨⟨method, span⟩, hmethod, kind, hkind, text, htext, base, hbase, heq⟩ := hfound
    split at heq
    · rename_i hbuilder
      exact ⟨hnone, ⟨kind, by simp [kindOf?, hmethod, hkind]⟩, ⟨text, htext⟩, base, hbase, hbuilder⟩
    · cases heq

theorem namedHere_eq_some_iff {n : Node} {x : String × ProcedureKind × Span} :
    (namedHere m read n).1 = some x ↔
      ∃ c, n = c.toNode ∧ (chain c).any m.isRouterCall = false ∧ namedProcedure? m c = some x := by
  constructor
  · intro h
    unfold namedHere at h
    split at h
    · rename_i span callee args types
      refine ⟨⟨span, callee, args, types⟩, rfl, ?_⟩
      dsimp only at h
      split at h
      · cases h
      · rename_i hrouter
        refine ⟨by simpa using hrouter, ?_⟩
        split at h
        · rename_i found hfound
          rw [hfound]
          exact h
        · cases h
    · cases h
    · cases h
  · rintro ⟨c, rfl, hrouter, hnamed⟩
    simp [namedHere, Call.toNode, hrouter, hnamed]

theorem namedHere_isSome_iff {n : Node} :
    (namedHere m read n).1.isSome ↔ ∃ c, n = c.toNode ∧ Names m c := by
  simp only [names_iff, Option.isSome_iff_exists, namedHere_eq_some_iff]
  constructor
  · rintro ⟨x, c, hn, hrouter, hnamed⟩
    exact ⟨c, hn, hrouter, x, hnamed⟩
  · rintro ⟨c, hn, hrouter, x, hnamed⟩
    exact ⟨x, c, hn, hrouter, hnamed⟩

/-- A node that is no call on top of a router and no property whose value has been read. -/
structure LooksInto (m : Matcher) (read : List Span) (n : Node) : Prop where
  router : ∀ c : Call, n = c.toNode → ∀ d ∈ chain c, ¬m.isRouterCall d
  value : ∀ kv, n.asKeyValue? = some kv → kv.2.span ∉ read

theorem namedHere_part_of_plain {n c : Node} {i : Nat} (hcall : n.asCall? = none)
    (hvalue : n.asKeyValue? = none) :
    (namedHere m read n).2[i]? = some c ↔
      n.children[i]? = some c ∧ LooksInto m read n ∧
        ((namedHere m read n).1.isSome → i = 0) := by
  have hhere : namedHere m read n = (none, n.children) := by
    unfold namedHere
    split
    · cases hcall
    · cases hvalue
    · rfl
  have hopen : LooksInto m read n := by
    refine ⟨fun c hc => ?_, fun kv hkv => ?_⟩
    · rw [hc] at hcall
      cases hcall
    · rw [hvalue] at hkv
      cases hkv
  simp [hhere, hopen]

theorem namedHere_part_iff {n c : Node} {i : Nat} :
    (namedHere m read n).2[i]? = some c ↔
      n.children[i]? = some c ∧ LooksInto m read n ∧
        ((namedHere m read n).1.isSome → i = 0) := by
  cases n with
  | call span callee args types =>
    by_cases hrouter : (chain ⟨span, callee, args, types⟩).any m.isRouterCall = true
    · have hclosed : ¬LooksInto m read (.call span callee args types) := by
        intro h
        obtain ⟨d, hd, hrouter⟩ := List.any_eq_true.1 hrouter
        exact h.router ⟨span, callee, args, types⟩ rfl d hd hrouter
      simp [namedHere, hrouter, hclosed]
    · have hopen : LooksInto m read (.call span callee args types) := by
        refine ⟨fun c hc d hd hd' => hrouter ?_, fun kv hkv => by cases hkv⟩
        cases hc
        exact List.any_eq_true.2 ⟨d, hd, hd'⟩
      cases hnamed : namedProcedure? m ⟨span, callee, args, types⟩ with
      | none => simp [namedHere, hrouter, hnamed, hopen]
      | some found =>
        cases i with
        | zero => simp [namedHere, hrouter, hnamed, hopen, Node.children]
        | succ i => simp [namedHere, hrouter, hnamed, hopen]
  | keyValue span key value =>
    by_cases hread : value.span ∈ read
    · have hclosed : ¬LooksInto m read (.keyValue span key value) := by
        intro h
        exact h.value (key, value) rfl hread
      simp [namedHere, hread, hclosed]
    · have hopen : LooksInto m read (.keyValue span key value) := by
        refine ⟨fun c hc => absurd hc (by simp [Call.toNode]), fun kv hkv => ?_⟩
        cases hkv
        exact hread
      simp [namedHere, hread, hopen]
  | _ => exact namedHere_part_of_plain rfl rfl

def namedPositions (m : Matcher) (read : List Span) (n : Node) : List (List Nat) :=
  (namedHere m read n).1.toList.map (fun _ => []) ++
    (namedHere m read n).2.attach.zipIdx.flatMap fun (c, i) =>
      (namedPositions m read c.1).map (i :: ·)
termination_by sizeOf n
decreasing_by exact Node.sizeOf_lt_of_mem_children (namedHere_subset m read n c.2)

theorem namedPositions_eq (m : Matcher) (read : List Span) (n : Node) :
    namedPositions m read n = (namedHere m read n).1.toList.map (fun _ => []) ++
      (namedHere m read n).2.zipIdx.flatMap fun (c, i) =>
        (namedPositions m read c).map (i :: ·) := by
  rw [namedPositions]
  congr 1
  conv_rhs => rw [← List.attach_map_subtype_val (namedHere m read n).2, List.zipIdx_map,
    List.flatMap_map]
  rfl

theorem nil_mem_namedPositions {n : Node} :
    [] ∈ namedPositions m read n ↔ ∃ c, n = c.toNode ∧ Names m c := by
  rw [← namedHere_isSome_iff, namedPositions_eq]
  cases (namedHere m read n).1 <;> simp

theorem cons_mem_namedPositions {n : Node} {i : Nat} {p : List Nat} :
    i :: p ∈ namedPositions m read n ↔ ∃ c, n.children[i]? = some c ∧
      (LooksInto m read n ∧ ([] ∈ namedPositions m read n → i = 0)) ∧
        p ∈ namedPositions m read c := by
  rw [nil_mem_namedPositions, ← namedHere_isSome_iff, namedPositions_eq]
  simp only [List.mem_append, List.mem_map, reduceCtorEq, and_false, exists_false, false_or,
    List.mem_flatMap, Prod.exists, List.mem_zipIdx_iff_getElem?, List.cons.injEq, namedHere_part_iff]
  constructor
  · rintro ⟨c, j, ⟨hc, henter⟩, p', hp, rfl, rfl⟩
    exact ⟨c, hc, henter, hp⟩
  · rintro ⟨c, hc, henter, hp⟩
    exact ⟨c, i, ⟨hc, henter⟩, p, hp, rfl, rfl⟩

theorem forall_prefix_cons {P : List Nat → Prop} {i : Nat} {p : List Nat} :
    (∀ q, q <+: i :: p → q ≠ i :: p → P q) ↔ P [] ∧ ∀ q, q <+: p → q ≠ p → P (i :: q) := by
  constructor
  · intro h
    refine ⟨h [] (List.nil_prefix) (by simp), fun q hq hne => ?_⟩
    exact h (i :: q) (List.cons_prefix_cons.2 ⟨rfl, hq⟩) (by simpa using hne)
  · rintro ⟨hnil, hcons⟩ q hq hne
    rcases List.prefix_cons_iff.1 hq with rfl | ⟨q', rfl, hq'⟩
    · exact hnil
    · exact hcons q' hq' (by simpa using hne)

/-- A call is found exactly if it names a procedure, all nodes above it are looked into, and it is in
the callee of those above it that are found. -/
theorem mem_namedPositions_iff {n : Node} {p : List Nat} :
    p ∈ namedPositions m read n ↔ (∃ c, n.at? p = some c.toNode ∧ Names m c) ∧
      ∀ q, q <+: p → q ≠ p → (∀ x, n.at? q = some x → LooksInto m read x) ∧
        (q ∈ namedPositions m read n → q ++ [0] <+: p) := by
  induction p generalizing n with
  | nil =>
    rw [nil_mem_namedPositions]
    simp only [Node.at?_nil, Option.some.injEq, List.prefix_nil]
    exact ⟨fun h => ⟨h, fun q hq hne => absurd hq hne⟩, fun h => h.1⟩
  | cons i p ih =>
    rw [cons_mem_namedPositions, forall_prefix_cons]
    cases hc : n.children[i]? with
    | none => simp [Node.at?_cons, hc]
    | some c =>
      have hcallee : [] ++ [0] <+: i :: p ↔ i = 0 := by
        rw [List.nil_append, List.cons_prefix_cons, eq_comm]
        simp
      have hinside : ∀ q, (i :: q ∈ namedPositions m read n → i :: q ++ [0] <+: i :: p) ↔
          ((LooksInto m read n ∧ ([] ∈ namedPositions m read n → i = 0)) →
            q ∈ namedPositions m read c → q ++ [0] <+: p) := by
        intro q
        rw [cons_mem_namedPositions, hc, List.cons_append, List.cons_prefix_cons]
        simp
      simp only [Node.at?_nil, Node.at?_cons_of_child hc, hcallee, hinside, Option.some.injEq,
        exists_eq_left', forall_eq']
      rw [ih]
      constructor
      · rintro ⟨henter, hnames, habove⟩
        exact ⟨hnames, henter, fun q hq hne => ⟨(habove q hq hne).1, fun _ => (habove q hq hne).2⟩⟩
      · rintro ⟨hnames, henter, habove⟩
        exact ⟨henter, hnames, fun q hq hne => ⟨(habove q hq hne).1, (habove q hq hne).2 henter⟩⟩

theorem namedPositions_pairwise (m : Matcher) (read : List Span) (n : Node) :
    (namedPositions m read n).Pairwise (· < ·) := by
  induction n using namedProcedures.induct m read with
  | case1 n ih =>
    rw [namedPositions_eq, List.pairwise_append]
    refine ⟨?_, ?_, ?_⟩
    · cases (namedHere m read n).1 <;> simp
    · rw [List.pairwise_flatMap]
      refine ⟨fun ⟨c, i⟩ hc => ?_, (zipIdx_pairwise_lt _).imp ?_⟩
      · have hmem := List.mem_of_getElem? (List.mem_zipIdx_iff_getElem?.1 hc)
        rw [List.pairwise_map]
        exact (ih c hmem).imp fun hlt => List.cons_lt_cons_iff.2 (.inr ⟨rfl, hlt⟩)
      · rintro ⟨c, i⟩ ⟨d, j⟩ hij p hp q hq
        obtain ⟨p', _, rfl⟩ := List.mem_map.1 hp
        obtain ⟨q', _, rfl⟩ := List.mem_map.1 hq
        exact List.cons_lt_cons_iff.2 (.inl hij)
    · intro p hp q hq
      obtain ⟨_, _, rfl⟩ := List.mem_map.1 hp
      obtain ⟨⟨c, i⟩, _, hq⟩ := List.mem_flatMap.1 hq
      obtain ⟨q', _, rfl⟩ := List.mem_map.1 hq
      exact List.nil_lt_cons _ _

theorem namedProcedures_eq (m : Matcher) (read : List Span) (n : Node) :
    namedProcedures m read n = (namedHere m read n).1.toList ++
      (namedHere m read n).2.flatMap (namedProcedures m read) := by
  rw [namedProcedures]
  simp [List.flatMap_subtype]

theorem namedPositions_map (m : Matcher) (read : List Span) (n : Node) :
    (namedPositions m read n).map (fun p => (n.at? p).bind fun x => (namedHere m read x).1) =
      (namedProcedures m read n).map some := by
  induction n using namedProcedures.induct m read with
  | case1 n ih =>
    rw [namedPositions_eq, namedProcedures_eq, List.map_append, List.map_append, List.map_flatMap,
      List.map_flatMap]
    congr 1
    · rw [List.map_map]
      cases h : (namedHere m read n).1 <;> simp [Node.at?_nil, h]
    · conv_rhs => rw [← List.zipIdx_map_fst 0 (namedHere m read n).2, List.flatMap_map]
      refine List.flatMap_congr fun ⟨c, i⟩ hc => ?_
      have hpart := List.mem_zipIdx_iff_getElem?.1 hc
      have hchild := (namedHere_part_iff.1 hpart).1
      rw [← ih c (List.mem_of_getElem? hpart), List.map_map]
      refine List.map_congr_left fun p _ => ?_
      rw [Function.comp_apply, Node.at?_cons_of_child hchild]

end Search

theorem namedInside_eq (m : Matcher) (lineOf : Span → Nat) (router : Call) :
    namedInside m lineOf router =
      namedProcedures m ((readProperties m lineOf router).filterMap (·.2)) router.argumentTree := by
  rw [namedProcedures_eq]
  rfl

theorem argumentProperties_mem_argumentTree {router : Call} {n : Node}
    (h : n ∈ argumentProperties router) : n ∈ router.argumentTree.preorder := by
  unfold argumentProperties at h
  split at h
  · rename_i span properties heq
    obtain ⟨arg, harg, hobject⟩ := Option.map_eq_some_iff.1 heq
    obtain ⟨first, hfirst, rfl⟩ := Option.map_eq_some_iff.1 harg
    have hpart : first.withoutSpread ∈ router.argumentTree.children :=
      List.mem_map_of_mem (List.mem_of_head? hfirst)
    have hmem : .object span properties ∈ router.argumentTree.preorder := by
      rw [← hobject]
      exact Node.preorder_subset_of_mem (Node.child_mem_preorder hpart)
        (Node.unwrap_mem_preorder _)
    exact Node.preorder_subset_of_mem hmem (Node.child_mem_preorder h)
  · cases h

/-- Where values have spans of their own, those that are known as read are those of the router's
own properties. -/
theorem readValue_iff_of_nodup {m : Matcher} {router : Call} {kv : Node × Node}
    (hspans : ((router.argumentTree.preorder.filterMap Node.asKeyValue?).map (·.2.span)).Nodup)
    (hkv : kv ∈ router.argumentTree.preorder.filterMap Node.asKeyValue?) :
    ReadValue m router kv.2.span ↔
      kv ∈ (argumentProperties router).filterMap Node.asKeyValue? ∧ IsRead m kv := by
  constructor
  · rintro ⟨kv', hmem, hspan, hread⟩
    obtain ⟨n, hn, hkv'⟩ := List.mem_filterMap.1 hmem
    have hmem' : kv' ∈ router.argumentTree.preorder.filterMap Node.asKeyValue? :=
      List.mem_filterMap.2 ⟨n, argumentProperties_mem_argumentTree hn, hkv'⟩
    obtain rfl := List.inj_on_of_nodup_map hspans hmem' hkv hspan
    exact ⟨hmem, hread⟩
  · rintro ⟨hmem, hread⟩
    exact ⟨kv, hmem, rfl, hread⟩

theorem looksInto_iff {m : Matcher} (lineOf : Span → Nat) {router : Call} (x : Option Node) :
    (∀ n, x = some n → LooksInto m ((readProperties m lineOf router).filterMap (·.2)) n) ↔
      (∀ c, x = some (Call.toNode c) → ∀ d ∈ chain c, ¬m.isRouterCall d) ∧
        ∀ kv, x.bind Node.asKeyValue? = some kv → ¬ReadValue m router kv.2.span := by
  constructor
  · intro h
    refine ⟨fun c hc => (h _ hc).router c rfl, fun kv hkv => ?_⟩
    obtain ⟨n, hn, hkv⟩ := Option.bind_eq_some_iff.1 hkv
    rw [← mem_readSpans lineOf]
    exact (h n hn).value kv hkv
  · rintro ⟨hrouter, hvalue⟩ n hn
    refine ⟨fun c hc => hrouter c (hc ▸ hn), fun kv hkv => ?_⟩
    rw [mem_readSpans]
    exact hvalue kv (Option.bind_eq_some_iff.2 ⟨n, hn, hkv⟩)

theorem namedPositions_forall₂ (m : Matcher) (read : List Span) (n : Node) :
    List.Forall₂ (fun p x => ∃ c, n.at? p = some (Call.toNode c) ∧ namedProcedure? m c = some x)
      (namedPositions m read n) (namedProcedures m read n) := by
  have hlist := namedPositions_map m read n
  rw [← List.forall₂_eq_eq_eq, List.forall₂_map_left_iff, List.forall₂_map_right_iff] at hlist
  refine hlist.imp fun p x hx => ?_
  obtain ⟨y, hy, hx⟩ := Option.bind_eq_some_iff.1 hx
  obtain ⟨c, rfl, _, hnamed⟩ := namedHere_eq_some_iff.1 hx
  exact ⟨c, hy, hnamed⟩

/-- Inside the arguments of a router exactly those calls are found, in the order of a visit, that
name a procedure and have nothing above them that keeps the search away: no call on top of a router,
no property that has been read as a procedure or a mount, and no other call that is found, unless
they are in its callee. So a call is not found, however deep it stands, where its chain does not
begin with a builder. -/
theorem named_procedures_exact (m : Matcher) (lineOf : Span → Nat) (router : Call) :
    (∃ found : List (List Nat), found.Pairwise (· < ·) ∧
      List.Forall₂ (fun p x => ∃ c, router.argumentTree.at? p = some c.toNode ∧
        namedProcedure? m c = some x) found (namedInside m lineOf router) ∧
      (∀ p, p ∈ found ↔ (∃ c, router.argumentTree.at? p = some c.toNode ∧ Names m c) ∧
        ∀ q, q <+: p → q ≠ p →
          (∀ c, router.argumentTree.at? q = some c.toNode → ∀ d ∈ chain c, ¬m.isRouterCall d) ∧
          (∀ kv, (router.argumentTree.at? q).bind Node.asKeyValue? = some kv →
            ¬ReadValue m router kv.2.span) ∧
          (q ∈ found → q ++ [0] <+: p)) ∧
      ∀ p c, router.argumentTree.at? p = some c.toNode →
        (∀ base, chainBase? c = some base → ¬m.isBuilder base) → p ∉ found) ∧
    (((router.argumentTree.preorder.filterMap Node.asKeyValue?).map (·.2.span)).Nodup →
      ∀ kv ∈ router.argumentTree.preorder.filterMap Node.asKeyValue?,
        (ReadValue m router kv.2.span ↔
          kv ∈ (argumentProperties router).filterMap Node.asKeyValue? ∧ IsRead m kv)) := by
  let read := (readProperties m lineOf router).filterMap (·.2)
  refine ⟨⟨namedPositions m read router.argumentTree, namedPositions_pairwise _ _ _, ?_, ?_, ?_⟩,
    fun hspans kv hkv => readValue_iff_of_nodup hspans hkv⟩
  · rw [namedInside_eq]
    exact namedPositions_forall₂ m read router.argumentTree
  · intro p
    rw [mem_namedPositions_iff]
    refine and_congr_right fun _ => forall_congr' fun q => imp_congr_right fun _ =>
      imp_congr_right fun _ => ?_
    rw [looksInto_iff, and_assoc]
  · intro p c hc hbase hp
    obtain ⟨⟨c', hc', hnames⟩, _⟩ := mem_namedPositions_iff.1 hp
    obtain rfl : c' = c := by
      rw [hc] at hc'
      exact (Call.toNode_inj (Option.some.inj hc')).symm
    obtain ⟨base, hsome, hbuilder⟩ := hnames.base
    exact hbase base hsome hbuilder

def procedureInArray : Disk :=
  ⟨[], .dir [("p", .dir [("a.ts", .file (String.toUTF8 ("router(\x7b a: procedure.query('read')," ++
    " b: [procedure.query('found', procedure.query('x')), db.query('sql')] \x7d)")))])]⟩

theorem procedure_in_array_found :
    let m := (Matcher.ofOptions {}).value
    ∃ f ∈ (Project.loadFrom procedureInArray ["p"]).value.files, ∃ router ∈ f.module.calls,
      ((router.argumentTree.preorder.filterMap Node.asKeyValue?).map (·.2.span)).Nodup ∧
      (namedInside m f.lineOf router).map (·.1) = ["found"] ∧
      ∀ kv ∈ router.argumentTree.preorder.filterMap Node.asKeyValue?,
        (ReadValue m router kv.2.span ↔
          kv ∈ (argumentProperties router).filterMap Node.asKeyValue? ∧ IsRead m kv) := by
  intro m
  have hfile : (Project.loadFrom procedureInArray ["p"]).value.files.head?.bind (fun f =>
      f.module.calls.head?.map fun router =>
        (decide ((router.argumentTree.preorder.filterMap Node.asKeyValue?).map (·.2.span)).Nodup,
          (namedInside m f.lineOf router).map (·.1))) = some (true, ["found"]) := by decide +kernel
  obtain ⟨f, hf, hcall⟩ := Option.bind_eq_some_iff.1 hfile
  obtain ⟨router, hrouter, heq⟩ := Option.map_eq_some_iff.1 hcall
  obtain ⟨hspans, hnames⟩ := Prod.mk.inj heq
  have hnodup := of_decide_eq_true hspans
  exact ⟨f, List.mem_of_head? hf, router, List.mem_of_head? hrouter, hnodup, hnames,
    (named_procedures_exact m f.lineOf router).2 hnodup⟩

end RouteAtlas.Rpc
