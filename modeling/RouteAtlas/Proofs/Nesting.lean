import Mathlib.Data.Finset.Card
import Mathlib.Data.Finset.Range
import RouteAtlas.Proofs.Region

set_option autoImplicit false

/-!
# Walks end

Every question leads to further ones of a lower rank: the walk is deeper, or follows one more
declaration, or the question is of a simpler kind. So no question is nested deeper than its
rank, and what a walk gives does not depend on what is put below.
-/
namespace RouteAtlas.Reference

open Script Tracing

variable {α β : Type}

def AgreeFrom (w : Walk) (m m' : Tracing α) : Prop := ∀ w', w.Continues w' → m w' = m' w'

namespace AgreeFrom

variable {w : Walk}

theorem refl (m : Tracing α) : AgreeFrom w m m := fun _ _ => rfl

theorem bind {P : α → Prop} {m m' : Tracing α} {f f' : α → Tracing β} (hr : Yields m P)
    (hm : AgreeFrom w m m') (hf : ∀ a, AgreeFrom w (f a) (f' a)) :
    AgreeFrom w (m >>= f) (m' >>= f') := by
  intro v hv
  change (m v >>= fun s => f s.1 s.2) = (m' v >>= fun s => f' s.1 s.2)
  rw [← hm v hv]
  exact Logged.bind_congr (hf _ _ (hv.trans (hr v).1))

theorem get {f f' : Walk → Tracing β} (h : ∀ v, w.Continues v → AgreeFrom v (f v) (f' v)) :
    AgreeFrom w (MonadState.get >>= f) (MonadState.get >>= f') :=
  fun v hv => h v hv v (.refl v)

theorem ite {c : Prop} [Decidable c] {m m' : Tracing α} (a : Tracing α)
    (h : ¬c → AgreeFrom w m m') : AgreeFrom w (if c then a else m) (if c then a else m') := by
  by_cases hc : c
  · rw [if_pos hc, if_pos hc]
    exact refl a
  · rw [if_neg hc, if_neg hc]
    exact h hc

theorem between {enter leave : Walk → Walk} {m m' : Tracing α} (h : AgreeFrom (enter w) m m')
    (henter : ∀ v, w.Continues v → (enter w).Continues (enter v)) :
    AgreeFrom w (between enter leave m) (between enter leave m') := by
  intro v hv
  change (m (enter v) >>= fun s => Pure.pure (s.1, leave s.2)) =
    (m' (enter v) >>= fun s => Pure.pure (s.1, leave s.2))
  rw [h _ (henter v hv)]

theorem deeper {m m' : Tracing α} (h : AgreeFrom { w with depth := w.depth + 1 } m m') :
    AgreeFrom w (deeper m) (deeper m') := by
  refine h.between fun v hv => ⟨?_, hv.decls, hv.exports, hv.containers, hv.seen⟩
  exact congrArg (· + 1) hv.depth

theorem following {id : Nat} {m m' : Tracing α}
    (h : AgreeFrom { w with decls := id :: w.decls } m m') :
    AgreeFrom w (following id m) (following id m') := by
  refine h.between fun v hv => ⟨hv.depth, ?_, hv.exports, hv.containers, hv.seen⟩
  exact congrArg (id :: ·) hv.decls

theorem searching {key : Nat × String} {m m' : Tracing α}
    (h : AgreeFrom { w with exports := key :: w.exports } m m') :
    AgreeFrom w (searching key m) (searching key m') := by
  refine h.between fun v hv => ⟨hv.depth, hv.decls, ?_, hv.containers, hv.seen⟩
  exact congrArg (key :: ·) hv.exports

theorem opening {l : Literal} {m m' : Tracing α}
    (h : AgreeFrom { w with containers := l :: w.containers } m m') :
    AgreeFrom w (opening l m) (opening l m') := by
  refine h.between fun v hv => ⟨hv.depth, hv.decls, hv.exports, ?_, hv.seen⟩
  exact congrArg (l :: ·) hv.containers

theorem firstFound {P : Option β → Prop} {step step' : α → Tracing (Option β)} {as : List α}
    (hr : ∀ a ∈ as, Yields (step a) P) (h : ∀ a ∈ as, AgreeFrom w (step a) (step' a)) :
    AgreeFrom w (firstFound step as) (firstFound step' as) := by
  induction as with
  | nil => exact refl _
  | cons a rest ih =>
    refine bind (hr a (by simp)) (h a (by simp)) fun b => ?_
    cases b with
    | some b => exact refl _
    | none => exact ih (fun a' ha' => hr a' (by simp [ha'])) fun a' ha' => h a' (by simp [ha'])

theorem gather {P : List β → Prop} {step step' : α → Tracing (List β)} {as : List α}
    (hr : ∀ a ∈ as, Yields (step a) P) (h : ∀ a ∈ as, AgreeFrom w (step a) (step' a)) :
    AgreeFrom w (gather step as) (gather step' as) := by
  induction as with
  | nil => exact refl _
  | cons a rest ih =>
    have hrest := Yields.gather (Q := fun _ => True) fun a' (ha' : a' ∈ rest) =>
      (hr a' (by simp [ha'])).mono fun _ _ _ _ => trivial
    refine bind (hr a (by simp)) (h a (by simp)) fun first => bind hrest ?_ fun _ => refl _
    exact ih (fun a' ha' => hr a' (by simp [ha'])) fun a' ha' => h a' (by simp [ha'])

end AgreeFrom

variable {ws : Workspace}

def unfollowed (ws : Workspace) (decls : List Nat) : Nat :=
  (Finset.range ws.project.decls.length \ decls.toFinset).card

theorem unfollowed_cons_lt {decls : List Nat} {id : Nat} (hid : id < ws.project.decls.length)
    (hnew : id ∉ decls) : unfollowed ws (id :: decls) < unfollowed ws decls := by
  refine Finset.card_lt_card (Finset.ssubset_iff_of_subset ?_ |>.2 ⟨id, ?_, ?_⟩)
  · exact Finset.sdiff_subset_sdiff (Finset.Subset.refl _) fun j hj => by
      simp only [List.toFinset_cons, Finset.mem_insert]
      exact Or.inr hj
  · simp [hid, hnew]
  · simp

/-- How many questions can be nested before the walk goes deeper or follows a declaration. -/
def Question.height : Question → Nat
  | .value _ _ => 0
  | .plainValue _ _ => 3
  | .callValue _ _ => 1
  | .nameValue _ _ => 1
  | .declValue _ => 0
  | .importValue _ _ _ => 2
  | .exportValue _ _ => 1
  | .lookup _ _ => 0
  | .propertyValue _ => 2
  | .elements _ => 0

def rank (ws : Workspace) (q : Question) (w : Walk) : Nat :=
  3 * unfollowed ws w.decls + 4 * (maxDepth - w.depth) + q.height

theorem rank_continues (q : Question) {w v : Walk} (h : w.Continues v) :
    rank ws q v = rank ws q w := by
  rw [rank, rank, h.decls, h.depth]

theorem rank_lt_nestingBound (q : Question) (w : Walk) : rank ws q w < nestingBound ws := by
  have hdecls : unfollowed ws w.decls ≤ ws.project.decls.length := by
    simpa [unfollowed] using Finset.card_le_card (Finset.sdiff_subset
      (s := Finset.range ws.project.decls.length) (t := w.decls.toFinset))
  have hheight : q.height ≤ 3 := by
    cases q <;> simp [Question.height]
  unfold rank nestingBound
  omega

section Agree

variable {ask ask' : Tracer} {n : Nat} {w : Walk}

def AgreeBelow (ws : Workspace) (n : Nat) (ask ask' : Tracer) : Prop :=
  ∀ q w, rank ws q w < n → ask q w = ask' q w

theorem AgreeBelow.from (h : AgreeBelow ws n ask ask') {q : Question} (hq : rank ws q w < n) :
    AgreeFrom w (ask q) (ask' q) :=
  fun v hv => h q v (by rwa [rank_continues q hv])

theorem AgreeBelow.simpler (h : AgreeBelow ws n ask ask') {q q' : Question}
    (hq : rank ws q w ≤ n) (hlt : q'.height < q.height) : AgreeFrom w (ask q') (ask' q') := by
  refine h.from (lt_of_lt_of_le ?_ hq)
  unfold rank
  omega

theorem AgreeBelow.deeper (h : AgreeBelow ws n ask ask') {q : Question} (q' : Question)
    (hq : rank ws q w ≤ n) (hdepth : w.depth < maxDepth) (hle : q'.height ≤ q.height + 3) :
    AgreeFrom { w with depth := w.depth + 1 } (ask q') (ask' q') := by
  refine h.from (lt_of_lt_of_le ?_ hq)
  simp only [rank]
  omega

theorem AgreeBelow.following (h : AgreeBelow ws n ask ask') {q : Question} (q' : Question) {id : Nat}
    (hq : rank ws q w ≤ n) (hid : id < ws.project.decls.length) (hnew : id ∉ w.decls)
    (hle : q'.height ≤ q.height + 2) :
    AgreeFrom { w with decls := id :: w.decls } (ask q') (ask' q') := by
  refine h.from (lt_of_lt_of_le ?_ hq)
  have hlt := unfollowed_cons_lt hid hnew
  simp only [rank]
  omega

theorem everything_holds (q : Question) : (Region.everything ws).HoldsQuestion q := by
  cases q with
  | propertyValue p =>
    change (Region.everything ws).HoldsProperty p
    unfold Region.HoldsProperty
    split <;> trivial
  | _ => simp [Region.HoldsQuestion, Region.HoldsObject, Region.HoldsArray, Region.everything]

theorem value_agree (h : AgreeBelow ws n ask ask') {o : Origin} {e : Node}
    (hn : rank ws (.value o e) w ≤ n) : AgreeFrom w (value ask o e) (value ask' o e) := by
  refine .get fun v hv => .ite _ fun hdepth => .deeper ?_
  rw [← rank_continues _ hv] at hn
  exact h.deeper _ hn (by omega) (by simp [Question.height])

theorem nameValue_agree (h : AgreeBelow ws n ask ask') {file : Nat} {name : String}
    (hn : rank ws (.nameValue file name) w ≤ n) :
    AgreeFrom w (nameValue ws ask file name) (nameValue ws ask' file name) := by
  unfold nameValue
  split
  · exact h.simpler hn (by simp [Question.height])
  · exact .refl _

theorem declValue_agree (h : AgreeBelow ws n ask ask') {id : Nat}
    (hn : rank ws (.declValue id) w ≤ n) :
    AgreeFrom w (declValue ws ask id) (declValue ws ask' id) := by
  unfold declValue
  split
  · exact .refl _
  · rename_i d hd
    refine .get fun v hv => .ite _ fun hnew => .following ?_
    rw [← rank_continues _ hv] at hn
    have hid := (List.getElem?_eq_some_iff.1 hd).1
    have hnew : id ∉ v.decls := by simpa using hnew
    split
    · exact h.following _ hn hid hnew (by simp [Question.height])
    · exact h.following _ hn hid hnew (by simp [Question.height])
    · exact .refl _

theorem importValue_agree (h : AgreeBelow ws n ask ask') {file : Nat} {specifier : String}
    {name : ImportedName} (hn : rank ws (.importValue file specifier name) w ≤ n) :
    AgreeFrom w (importValue ws ask file specifier name)
      (importValue ws ask' file specifier name) := by
  unfold importValue
  split
  · exact .refl _
  · cases name with
    | «namespace» => exact .refl _
    | default => exact h.simpler hn (by simp [Question.height])
    | named name => exact h.simpler hn (by simp [Question.height])

theorem propertyValue_agree (h : AgreeBelow ws n ask ask') {p : Property}
    (hn : rank ws (.propertyValue p) w ≤ n) :
    AgreeFrom w (propertyValue ask p) (propertyValue ask' p) := by
  unfold propertyValue
  split
  · exact h.simpler hn (by simp [Question.height])
  · exact h.simpler hn (by simp [Question.height])

-- The other questions ask more than once, so what `ask` does to the walk matters to them.
variable (hr : (Region.everything ws).Sound ask)
include hr

theorem memberValue_agree (h : AgreeBelow ws n ask ask') {o : Origin} {e : Node} {key : String}
    (v : Option Value) (hn : rank ws (.plainValue o e) w ≤ n) :
    AgreeFrom w (memberValue ask key v) (memberValue ask' key v) := by
  unfold memberValue
  split
  · refine .bind (hr _ (everything_holds _)) (h.simpler hn (by simp [Question.height])) fun p => ?_
    cases p with
    | none => exact .refl _
    | some p => exact h.simpler hn (by simp [Question.height])
  · exact h.simpler hn (by simp [Question.height])
  · exact .refl _

theorem plainValue_agree (h : AgreeBelow ws n ask ask') {o : Origin} {e : Node}
    (hn : rank ws (.plainValue o e) w ≤ n) :
    AgreeFrom w (plainValue ask o e) (plainValue ask' o e) := by
  cases e with
  | call span callee args types => exact h.simpler hn (by simp [Question.height])
  | ident span name => exact h.simpler hn (by simp [Question.height])
  | member span base property =>
    simp only [plainValue]
    split
    · exact .refl _
    · refine .bind (hr _ (everything_holds _)) (h.simpler hn (by simp [Question.height])) fun v => ?_
      exact memberValue_agree hr h v hn
  | template span pieces parts =>
    rcases pieces with _ | ⟨s, _ | _⟩ <;> cases parts <;> exact .refl _
  | _ => exact .refl _

theorem callValue_agree (h : AgreeBelow ws n ask ask') {o : Origin} {args : List Node}
    (hn : rank ws (.callValue o args) w ≤ n) :
    AgreeFrom w (callValue ask o args) (callValue ask' o args) := by
  unfold callValue
  split
  · exact .refl _
  · split
    · exact .refl _
    · exact .bind (hr _ (everything_holds _)) (h.simpler hn (by simp [Question.height]))
        fun v => .refl _

theorem exportValue_agree (h : AgreeBelow ws n ask ask') {file : Nat} {name : String}
    (hn : rank ws (.exportValue file name) w ≤ n) :
    AgreeFrom w (exportValue ws ask file name) (exportValue ws ask' file name) := by
  unfold exportValue
  split
  · exact h.simpler hn (by simp [Question.height])
  · refine .get fun v hv => .ite _ fun hopen => .searching (.deeper ?_)
    rw [← rank_continues _ hv] at hn
    refine .firstFound (P := (∀ v ∈ ·, (Region.everything ws).HoldsValue v))
      (fun target _ => hr (.exportValue target name) trivial) fun target _ => ?_
    exact h.deeper _ hn (by simp_all) (by simp [Question.height])

theorem entryProperty_agree (h : AgreeBelow ws n ask ask') {obj : ObjectRef} {key : String}
    (p : Node) (hn : rank ws (.lookup obj key) w ≤ n) (hdepth : w.depth < maxDepth) :
    AgreeFrom { w with depth := w.depth + 1 } (entryProperty ask obj.origin key p)
      (entryProperty ask' obj.origin key p) := by
  cases p with
  | spread span inner =>
    refine .bind (hr _ (everything_holds _)) (h.deeper _ hn hdepth (by simp [Question.height]))
      fun v => ?_
    split
    · exact h.deeper _ hn hdepth (by simp [Question.height])
    · exact .refl _
  | _ => exact .refl _

theorem lookup_agree (h : AgreeBelow ws n ask ask') {obj : ObjectRef} {key : String}
    (hn : rank ws (.lookup obj key) w ≤ n) :
    AgreeFrom w (lookup ask obj key) (lookup ask' obj key) := by
  refine .get fun v hv => .ite _ fun hopen => .opening (.deeper ?_)
  rw [← rank_continues _ hv] at hn
  refine .firstFound (fun p _ => Region.entryProperty_sound hr key trivial) fun p _ => ?_
  exact entryProperty_agree hr h p hn (by simp_all)

theorem elementObjects_agree (h : AgreeBelow ws n ask ask') {arr : ArrayRef} (e : Node)
    (hn : rank ws (.elements arr) w ≤ n) (hdepth : w.depth < maxDepth) :
    AgreeFrom { w with depth := w.depth + 1 } (elementObjects ws ask arr.origin e)
      (elementObjects ws ask' arr.origin e) := by
  unfold elementObjects
  split
  · exact .refl _
  · refine .bind (hr _ (everything_holds _)) (h.deeper _ hn hdepth (by simp [Question.height]))
      fun v => ?_
    split
    · exact h.deeper _ hn hdepth (by simp [Question.height])
    · exact .refl _
  · exact .bind (hr _ (everything_holds _)) (h.deeper _ hn hdepth (by simp [Question.height]))
      fun v => .refl _

theorem elements_agree (h : AgreeBelow ws n ask ask') {arr : ArrayRef}
    (hn : rank ws (.elements arr) w ≤ n) :
    AgreeFrom w (elements ws ask arr) (elements ws ask' arr) := by
  refine .get fun v hv => .ite _ fun hopen => .opening (.deeper ?_)
  rw [← rank_continues _ hv] at hn
  refine .gather (fun e _ => Region.elementObjects_sound hr trivial) fun e _ => ?_
  exact elementObjects_agree hr h e hn (by simp_all)

/-- The answer to a question depends only on the answers to questions of lower rank. -/
theorem follow_agree (h : AgreeBelow ws n ask ask') :
    AgreeBelow ws (n + 1) (follow ws ask) (follow ws ask') := by
  intro q w hq
  have hn : rank ws q w ≤ n := Nat.le_of_lt_succ hq
  cases q with
  | value o e => exact value_agree h hn w (.refl w)
  | plainValue o e => exact plainValue_agree hr h hn w (.refl w)
  | callValue o args => exact callValue_agree hr h hn w (.refl w)
  | nameValue file name => exact nameValue_agree h hn w (.refl w)
  | declValue id => exact declValue_agree h hn w (.refl w)
  | importValue file specifier name => exact importValue_agree h hn w (.refl w)
  | exportValue file name => exact exportValue_agree hr h hn w (.refl w)
  | lookup obj key => exact lookup_agree hr h hn w (.refl w)
  | propertyValue p => exact propertyValue_agree h hn w (.refl w)
  | elements arr => exact elements_agree hr h hn w (.refl w)

end Agree

theorem nested_agree {base : Tracer} (hr : (Region.everything ws).Sound base) (base' : Tracer)
    (n k : Nat) : AgreeBelow ws n (nested ws base n) (nested ws base' (n + k)) := by
  induction n with
  | zero => exact fun q w hq => absurd hq (Nat.not_lt_zero _)
  | succ n ih =>
    rw [Nat.succ_add]
    exact follow_agree (Region.nested_sound hr n) ih

/-- No question is left to what is put below the bound. -/
theorem nested_eq_trace (ws : Workspace) (base : Tracer) (k : Nat) :
    nested ws base (nestingBound ws + k) = trace ws := by
  funext q w
  exact (nested_agree Region.silent_sound base _ k q w (rank_lt_nestingBound q w)).symm

theorem nested_of_eq_follow {t : Tracer} (h : t = follow ws t) (n : Nat) : nested ws t n = t := by
  induction n with
  | zero => rfl
  | succ n ih => rw [nested, ih, ← h]

theorem trace_eq_follow (ws : Workspace) : trace ws = follow ws (trace ws) :=
  (nested_eq_trace ws silent 1).symm

theorem trace_restores (ws : Workspace) (q : Question) (w : Walk) : w.Continues (trace ws q w).value.2 :=
  ((Region.everything ws).trace_sound q (everything_holds q) w).1

/-- Every walk ends, from every state and through any cycles, and leaves the state as it was: the
nesting of its questions is bounded by the declarations of the project and the limit of depth,
so that following them again and again has exactly one outcome. -/
theorem walks_end_and_restore (ws : Workspace) :
    (∀ (base : Tracer) (k : Nat), nested ws base (nestingBound ws + k) = trace ws) ∧
      (∀ t : Tracer, t = follow ws t ↔ t = trace ws) ∧
      ∀ (q : Question) (w : Walk),
        (trace ws q w).value.2.depth = w.depth ∧ (trace ws q w).value.2.decls = w.decls ∧
          (trace ws q w).value.2.exports = w.exports ∧
          (trace ws q w).value.2.containers = w.containers ∧
          w.seen <:+ (trace ws q w).value.2.seen := by
  refine ⟨nested_eq_trace ws, fun t => ⟨fun h => ?_, fun h => ?_⟩, fun q w => ?_⟩
  · rw [← nested_eq_trace ws t 0, nested_of_eq_follow h]
  · rw [h]
    exact trace_eq_follow ws
  · obtain ⟨hdepth, hdecls, hexports, hcontainers, hseen⟩ := trace_restores ws q w
    exact ⟨hdepth, hdecls, hexports, hcontainers, hseen⟩

end RouteAtlas.Reference
