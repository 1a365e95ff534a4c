import Mathlib.Data.List.Nodup
import Mathlib.Data.List.Perm.Basic
import TemplateLint.Proofs.Walk.Calls
import TemplateLint.Proofs.Walk.Traversal

/-!
What a walk calls at its marks.

At each mark the callbacks that match the node are called, by categories and then as they have been
registered. A walk in which no callback fails makes these calls one after the other and does nothing
else. Main statements: `fires_callbacksOf`, `walk_traversal`.
-/

namespace TemplateLint

namespace RuleTable

/-- The category of a registration is one of the categories of a kind. -/
def covers (t : RuleTable) (k : Kind) (r : Registration) : Bool :=
  t.categories.any fun e => e.1 == r.category && e.2.any k.isA

/-- Callbacks as they are called for the nodes of a kind. -/
structure Fires (t : RuleTable) (k : Kind) (phase : Phase) (rs : List Registration) : Prop where
  /-- There is a call for every registration that matches. -/
  matching : rs.Perm (t.registrations.filter fun r => t.covers k r && r.phase == phase)
  /-- They go by categories … -/
  categories : rs.Pairwise fun r r' =>
    t.categories.names.idxOf r.category ≤ t.categories.names.idxOf r'.category
  /-- … and for a category as they have been registered. -/
  registrations : ∀ c, (rs.filter (·.category == c)).Sublist t.registrations

variable {t : RuleTable}

lemma covers_eq (t : RuleTable) (k : Kind) (r : Registration) :
    t.covers k r = (t.categories.classify k).contains r.category := by
  rw [Bool.eq_iff_iff, List.contains_iff_mem, covers, List.any_eq_true]
  simp only [CategoryTable.classify, List.mem_map, List.mem_filter, Bool.and_eq_true, beq_iff_eq]
  constructor
  · rintro ⟨e, he, hname, hk⟩
    exact ⟨e, ⟨he, hk⟩, hname⟩
  · rintro ⟨e, ⟨he, hk⟩, hname⟩
    exact ⟨e, he, hname, hk⟩

lemma category_of_mem_callbacksFor {c : String} {phase : Phase} {r : Registration}
    (h : r ∈ t.callbacksFor c phase) : r.category = c := by
  have hr := (List.mem_filter.1 h).2
  rw [Bool.and_eq_true, beq_iff_eq] at hr
  exact hr.1

/-- Registrations by different categories are those of all of them. -/
lemma flatMap_callbacksFor_perm (t : RuleTable) (phase : Phase) {cs : List String}
    (hcs : cs.Nodup) : (cs.flatMap fun c => t.callbacksFor c phase).Perm
      (t.registrations.filter fun r => cs.contains r.category && r.phase == phase) := by
  induction cs with
  | nil => simp
  | cons c cs ih =>
    obtain ⟨hc, hcs⟩ := List.nodup_cons.1 hcs
    set all := t.registrations.filter fun r => (c :: cs).contains r.category && r.phase == phase
    have hfirst : all.filter (·.category == c) = t.callbacksFor c phase := by
      rw [callbacksFor, List.filter_filter]
      refine List.filter_congr fun r _ => ?_
      by_cases hr : r.category = c
      · simp [hr]
      · simp [beq_false_of_ne hr]
    have hrest : all.filter (fun r => !(r.category == c)) =
        t.registrations.filter fun r => cs.contains r.category && r.phase == phase := by
      rw [List.filter_filter]
      refine List.filter_congr fun r _ => ?_
      by_cases hr : r.category = c
      · simp [hr, hc]
      · simp [hr]
    rw [List.flatMap_cons, ← hfirst]
    exact ((ih hcs).append_left _).trans (hrest ▸ List.filter_append_perm ..)

lemma filter_flatMap_callbacksFor (t : RuleTable) (phase : Phase) (c : String) {cs : List String}
    (hcs : cs.Nodup) : (cs.flatMap fun c => t.callbacksFor c phase).filter (·.category == c) =
      if c ∈ cs then t.callbacksFor c phase else [] := by
  induction cs with
  | nil => rfl
  | cons d cs ih =>
    obtain ⟨hd, hcs⟩ := List.nodup_cons.1 hcs
    have hown : ∀ r ∈ t.callbacksFor d phase, r.category = d :=
      fun r hr => category_of_mem_callbacksFor hr
    rw [List.flatMap_cons, List.filter_append, ih hcs]
    by_cases hc : c = d
    · subst hc
      rw [if_neg hd, if_pos (List.mem_cons_self ..), List.append_nil]
      exact List.filter_eq_self.2 fun r hr => by simp [hown r hr]
    · have hnone : (t.callbacksFor d phase).filter (·.category == c) = [] :=
        List.filter_eq_nil_iff.2 fun r hr => by simp [hown r hr, Ne.symm hc]
      simp [hnone, hc]

lemma pairwise_idxOf {names : List String} (h : names.Nodup) :
    names.Pairwise fun a b => names.idxOf a ≤ names.idxOf b := by
  refine List.pairwise_iff_getElem.2 fun i j hi hj hij => ?_
  rw [h.idxOf_getElem, h.idxOf_getElem]
  exact hij.le

/-- **Callbacks go by categories, then as they have been registered.** -/
theorem fires_callbacksOf (h : t.categories.names.Nodup) (k : Kind) (phase : Phase) :
    t.Fires k phase (t.callbacksOf k phase) := by
  have hsublist : (t.categories.classify k).Sublist t.categories.names :=
    List.filter_sublist.map _
  have hnodup := h.sublist hsublist
  refine ⟨?_, ?_, fun c => ?_⟩
  · simp only [covers_eq]
    exact flatMap_callbacksFor_perm t phase hnodup
  · refine List.pairwise_flatMap.2 ⟨fun c _ => ?_, ((pairwise_idxOf h).sublist hsublist).imp ?_⟩
    · refine List.pairwise_of_forall_mem_list fun r hr r' hr' => ?_
      rw [category_of_mem_callbacksFor hr, category_of_mem_callbacksFor hr']
    · intro c d hle r hr r' hr'
      rw [category_of_mem_callbacksFor hr, category_of_mem_callbacksFor hr']
      exact hle
  · rw [callbacksOf, filter_flatMap_callbacksFor t phase c hnodup]
    split
    · exact List.filter_sublist
    · exact List.nil_sublist _

end RuleTable

namespace Walk

variable {t : RuleTable} {w : View}

/-! ### Making calls -/

/-- Makes calls one after the other, up to the first one that fails. -/
def make : List Call → Run → Run × Option CallbackFault
  | [], run => (run, none)
  | c :: cs, run =>
    match callAll c.visit [c.registration] run with
    | (run, none) => make cs run
    | (run, some f) => (run, some f)

lemma make_append (cs cs' : List Call) (run : Run) :
    make (cs ++ cs') run =
      match make cs run with
      | (run, none) => make cs' run
      | (run, some f) => (run, some f) := by
  induction cs generalizing run with
  | nil => rfl
  | cons c cs ih =>
    rw [List.cons_append, make, make]
    rcases callAll c.visit [c.registration] run with ⟨run', _ | f⟩
    · exact ih run'
    · rfl

/-- The callbacks for a visit are called one after the other. -/
lemma make_map (v : Visit) (rs : List Registration) (run : Run) :
    make (rs.map (⟨·, v⟩)) run = callAll v rs run := by
  induction rs generalizing run with
  | nil => rfl
  | cons r rs ih =>
    rw [List.map_cons, make, callAll, callAll]
    rcases run.performAll r.rule r.key (r.callback run.session.view? v) with ⟨run', _ | f⟩
    · exact ih run'
    · rfl

/-- In a document that looks like `w` calls add their effects. -/
lemma make_eq {run : Run} (hw : run.session.view? = some w) (cs : List Call) :
    make cs run = (run.addAll (effectsOfCalls w cs).1, (effectsOfCalls w cs).2) := by
  induction cs generalizing run with
  | nil => rfl
  | cons c cs ih =>
    rw [make, callAll_eq hw, effectsOfCalls, List.map_singleton, effectsOfCalls, effectsOfCalls]
    cases c.fault? w with
    | none =>
      have hv : (run.addAll (c.effects w)).session.view? = some w :=
        (Run.view?_addAll ..).trans hw
      simp only [List.append_nil]
      rw [ih hv, Run.addAll_append]
    | some f => rfl

/-- **A walk in which no callback fails makes its calls one after the other.** -/
theorem make_of_follow {ms : List Moment} {n : Nat} {run : Run}
    (h : ∀ f, (follow t ms n run).fault ≠ some (.callback f)) :
    make (calls t ms) run = ((follow t ms n run).run, none) ∧
      ((follow t ms n run).visited, (follow t ms n run).fault) = ending ms n := by
  induction ms generalizing n run with
  | nil => exact ⟨rfl, rfl⟩
  | cons m ms ih =>
    cases m with
    | tooDeep => exact ⟨rfl, rfl⟩
    | unset kind => exact ⟨rfl, rfl⟩
    | visit v phase =>
      have hmake := make_map v (t.callbacksOf v.node.kind phase) run
      rw [calls, callsFor, make_append, hmake]
      unfold follow at h ⊢
      rcases hc : callAll v (t.callbacksOf v.node.kind phase) run with ⟨run', _ | f⟩ <;>
        rw [hc] at h
      · exact ih h
      · exact absurd rfl (h f)

/-! ### Marks and calls -/

def callsAt (t : RuleTable) (m : Mark) : List Call := callsFor t m.visit m.phase

lemma calls_map_moment (ms : List Mark) :
    calls t (ms.map Mark.moment) = ms.flatMap (callsAt t) := by
  induction ms with
  | nil => rfl
  | cons m ms ih => rw [List.map_cons, Mark.moment, calls, ih, List.flatMap_cons]; rfl

lemma ending_map_moment (ms : List Mark) (n : Nat) :
    ending (ms.map Mark.moment) n = (n + (ms.filter (·.phase == .enter)).length, none) := by
  induction ms generalizing n with
  | nil => rfl
  | cons m ms ih =>
    obtain ⟨o, phase⟩ := m
    rw [List.map_cons, Mark.moment, ending, ih]
    cases phase with
    | enter =>
      rw [List.filter_cons_of_pos rfl, List.length_cons, countVisit]
      congr 1
      omega
    | exit =>
      have hexit : (Phase.exit == .enter) = false := by decide
      rw [List.filter_cons_of_neg (by simp [hexit]), countVisit]

/-- No walked occurrence is further down than a walk through the given number of levels goes. -/
def Shallow (levels : Nat) (root : Node) : Prop :=
  ∀ o ∈ root.occurrences, o.walked → o.path.length < levels

/-- A walk comes to its end: no walked occurrence is too far down, or has fields unset that should
be walked. -/
def Walkable (levels : Nat) (root : Node) : Prop :=
  ∀ o ∈ root.occurrences, o.walked → o.path.length < levels ∧ o.node.steps? ≠ none

variable {levels : Nat}

lemma moments_of_walkable {root : Node} (h : Walkable levels root) :
    moments levels ⟨root, []⟩ = root.marks.map Mark.moment := by
  have hp : ([] : List Link).all (!·.leftOut) := rfl
  exact moments_eq le_rfl hp fun o ho hw => by simpa using h o ho hw

lemma walkable_of_shallow {root : Node} (hroot : root.Complete) (h : Shallow levels root) :
    Walkable levels root := by
  intro o ho hw
  obtain ⟨cs, hcs, -⟩ := (hroot.of_mem_occurrencesAt ho).steps
  exact ⟨h o ho hw, by simp [hcs]⟩

lemma ending_of_not_shallow {root : Node} (hroot : root.Complete) (h : ¬Shallow levels root)
    (n : Nat) : ∃ visited, (ending (moments levels ⟨root, []⟩) n).2 = some (.tooDeep visited) := by
  obtain ⟨o, ho, hw, hdeep⟩ : ∃ o ∈ root.occurrences, o.walked ∧ levels ≤ o.path.length := by
    simpa [Shallow] using h
  refine ending_of_tooDeep (tooDeep_mem hroot ho hw (by simpa using hdeep)) (fun kind => ?_) n
  exact unset_not_mem_moments (v := ⟨root, []⟩) hroot levels kind

/-- A walk through a tree by fields. -/
structure Traverses (t : RuleTable) (root : Node) (run : Run) (r : Result) (ms : List Mark) :
    Prop where
  /-- The occurrences are those of the root and of all nodes below it. -/
  nodes : root.occurrences.map (·.node) = root :: root.descendants
  traversal : Node.Traversal root ms
  /-- At a mark the matching callbacks are called, none of them for a node without categories. -/
  fires : ∀ m ∈ ms, t.Fires m.occurrence.node.kind m.phase ((callsAt t m).map (·.registration)) ∧
    ∀ c ∈ callsAt t m, c.visit = m.visit
  fault : r.fault = none
  /-- The number of the nodes that are walked is returned. -/
  visited : r.visited = (root.occurrences.filter (·.walked)).length
  /-- What is done are the calls at the marks, in order, and nothing else. -/
  run : ∃ last, make (ms.flatMap (callsAt t)) run = (last, none) ∧
    r.run = last.tell [⟨.debug, .walker, s!"Walked {r.visited} node(s)"⟩]

lemma walk_fault (t : RuleTable) (levels : Nat) (root : Node) (run : Run) :
    (walk t levels root run).fault = (follow t (moments levels ⟨root, []⟩) 0 run).fault := by
  rw [walk]
  split
  · rfl
  · rfl

/-- A walk that goes to its end tells how many nodes it has entered. -/
lemma walk_of_none {root : Node} {run : Run} {r : Result}
    (hr : follow t (moments levels ⟨root, []⟩) 0 run = r) (h : r.fault = none) :
    walk t levels root run =
      ⟨r.run.tell [⟨.debug, .walker, s!"Walked {r.visited} node(s)"⟩], r.visited, none⟩ := by
  rw [walk, hr]
  obtain ⟨run', visited, fault⟩ := r
  cases h
  rfl

/-- A tree in which a walked occurrence is too far down is not walked to its end. -/
lemma tooDeep_of_not_shallow {root : Node} {run : Run} (hroot : root.Complete)
    (hquiet : ∀ f, (follow t (moments levels ⟨root, []⟩) 0 run).fault ≠ some (.callback f))
    (h : ¬Shallow levels root) :
    ∃ visited, (walk t levels root run).fault = some (.tooDeep visited) := by
  obtain ⟨visited, hdeep⟩ := ending_of_not_shallow hroot h 0
  exact ⟨visited, by rw [walk_fault, ← hdeep, ← (make_of_follow hquiet).2]⟩

/-- **A walk is the traversal by fields**, if no callback fails, however many levels it can go down.
A tree in which a walked occurrence is further down ends it. -/
theorem walk_traversal (t : RuleTable) (levels : Nat) (root : Node) (run : Run)
    (ht : t.categories.names.Nodup) (hroot : root.Complete)
    (hquiet : ∀ f, (walk t levels root run).fault ≠ some (.callback f)) :
    (Shallow levels root → ∃ ms, Traverses t root run (walk t levels root run) ms) ∧
      (¬Shallow levels root →
        ∃ visited, (walk t levels root run).fault = some (.tooDeep visited)) := by
  rw [walk_fault] at hquiet
  refine ⟨fun hshallow => ⟨root.marks, ?_⟩, tooDeep_of_not_shallow hroot hquiet⟩
  obtain ⟨hmake, hending⟩ := make_of_follow hquiet
  have hmoments := moments_of_walkable (walkable_of_shallow hroot hshallow)
  have htraversal := Node.traversal_marks root
  rw [hmoments, ending_map_moment, Nat.zero_add] at hending
  rw [hmoments, calls_map_moment] at hmake
  rcases hr : follow t (root.marks.map Mark.moment) 0 run with ⟨last, visited, fault⟩
  rw [hr] at hmake hending
  obtain ⟨hvisited, hnone⟩ := Prod.mk.inj hending
  rw [walk_of_none (hmoments ▸ hr) hnone]
  refine ⟨Node.map_node_occurrences hroot, htraversal, fun m _ => ⟨?_, fun c hc => ?_⟩, rfl, ?_,
    last, hmake, rfl⟩
  · have hsame : (callsAt t m).map (·.registration) =
        t.callbacksOf m.occurrence.node.kind m.phase := by
      rw [callsAt, callsFor, List.map_map]
      exact List.map_id _
    exact hsame ▸ RuleTable.fires_callbacksOf ht ..
  · obtain ⟨r, -, rfl⟩ := List.mem_map.1 hc
    rfl
  · rw [← htraversal.enters, List.length_map]
    exact hvisited

/-! ### What is not walked -/

def callTree : Node :=
  let name (s : String) : Node := .mk .name (some 1) [.text s, .text "load"]
  .mk .template (some 1) [.nodes [.mk .output (some 1) [.nodes [.mk .call (some 1)
    [.node (name "f"), .nodes [name "a"], .list [], .null, .null]]]]]

/-- A rule that notes names, as symbols and as values. -/
def nameTable : RuleTable :=
  let note : Callback := fun _ v => [.note (.visit v.node.kind.label v.node.line)]
  ⟨.standard, ["names"], [⟨"names", "Symbol", .enter, note⟩, ⟨"names", "Value", .enter, note⟩]⟩

/-- What is called is left out, its argument is not. Values come before symbols. Four levels are
enough for the tree. -/
theorem walk_traversal_call :
    let r := walk nameTable 4 callTree (.start .empty)
    nameTable.categories.names.Nodup ∧ callTree.Complete ∧
      (∀ f, r.fault ≠ some (.callback f)) ∧ Shallow 4 callTree ∧
      callTree.occurrences.length = 5 ∧ r.visited = 4 ∧
      r.run.events.map (·.key) = ["Value", "Symbol"] ∧
      ∃ ms, Traverses nameTable callTree (.start .empty) r ms := by
  have ht : nameTable.categories.names.Nodup := by decide
  have hroot : callTree.Complete := by simp [callTree, Kind.fieldNames]
  have hfault : (walk nameTable 4 callTree (.start .empty)).fault = none := rfl
  have hvisited : (walk nameTable 4 callTree (.start .empty)).visited = 4 := rfl
  have hevents : (walk nameTable 4 callTree (.start .empty)).run.events.map (·.key) =
    ["Value", "Symbol"] := rfl
  have hlength : callTree.occurrences.length = 5 := by decide
  have hshallow : Shallow 4 callTree := by
    unfold Shallow
    decide
  have hquiet : ∀ f, (walk nameTable 4 callTree (.start .empty)).fault ≠ some (.callback f) := by
    simp [hfault]
  exact ⟨ht, hroot, hquiet, hshallow, hlength, hvisited, hevents,
    (walk_traversal nameTable 4 callTree (.start .empty) ht hroot hquiet).1 hshallow⟩

/-- A macro with a node for its name. -/
def namedMacro : Node :=
  .mk .macroDef (some 1) [.node (.mk .name (some 1) [.text "m", .text "store"]), .list [], .list [],
    .list []]

lemma not_shallow_sum {n : Nat} (hn : levels ≤ n) : ¬Shallow levels (Node.sum n) := by
  intro h
  obtain ⟨o, ho, hw, hlength⟩ := Node.exists_mem_occurrences_sum n
  have := h o ho hw
  omega

lemma callbacksOf_empty (k : Kind) (phase : Phase) : RuleTable.empty.callbacksOf k phase = [] := by
  simp [RuleTable.callbacksOf, RuleTable.callbacksFor, RuleTable.empty]

lemma calls_empty (ms : List Moment) : calls .empty ms = [] := by
  induction ms with
  | nil => rfl
  | cons m ms ih =>
    cases m with
    | tooDeep => rfl
    | unset kind => rfl
    | visit v phase => rw [calls, callsFor, callbacksOf_empty, ih]; rfl

lemma fault_follow_empty (ms : List Moment) (n : Nat) (run : Run) (f : CallbackFault) :
    (follow .empty ms n run).fault ≠ some (.callback f) := by
  induction ms generalizing n with
  | nil => simp [follow]
  | cons m ms ih =>
    cases m with
    | tooDeep => simp [follow]
    | unset kind => simp [follow]
    | visit v phase =>
      simp only [follow, callbacksOf_empty, callAll]
      exact ih _

/-- Two trees with all fields set that are not walked as a traversal by fields that leaves out what
is called and the keys of pairs: the name of a macro is left out too, and a sum with more signs than
the walk can go down is not walked to its end. -/
theorem walk_not_generic :
    namedMacro.Complete ∧ (walk .empty 960 namedMacro (.start .empty)).fault = none ∧
    (walk .empty 960 namedMacro (.start .empty)).visited = 1 ∧
    (namedMacro.occurrences.filter fun o => o.path.all fun l =>
      !(l.kind == .call && l.field == "node" || l.kind == .pair && l.field == "key")).length = 2 ∧
    (Node.sum 4000).Complete ∧ ∀ levels ≤ 4000,
      ∃ visited, (walk .empty levels (Node.sum 4000) (.start .empty)).fault =
        some (.tooDeep visited) := by
  have hcomplete : namedMacro.Complete := by simp [namedMacro, Kind.fieldNames]
  have hfault : (walk .empty 960 namedMacro (.start .empty)).fault = none := rfl
  have hvisited : (walk .empty 960 namedMacro (.start .empty)).visited = 1 := rfl
  have hlength : (namedMacro.occurrences.filter fun o => o.path.all fun l =>
      !(l.kind == .call && l.field == "node" || l.kind == .pair && l.field == "key")).length =
        2 := by decide
  exact ⟨hcomplete, hfault, hvisited, hlength, Node.complete_sum 4000, fun levels hlevels =>
    tooDeep_of_not_shallow (Node.complete_sum 4000) (fault_follow_empty _ 0 _)
      (not_shallow_sum hlevels)⟩

end Walk

end TemplateLint
