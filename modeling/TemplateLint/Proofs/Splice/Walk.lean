import Mathlib.Data.List.Infix
import TemplateLint.Proofs.Node.Occurrence
import TemplateLint.Proofs.Walk.Calls

/-!
Nodes that stand together somewhere in a tree are walked together.

`Spliced part whole` says that the nodes of `part` are neighbours in `whole`, or among the walked
children of a node in it. What callbacks are called for in a walk that nothing ends does not depend
on where a node hangs (`occasionsAt`), and a walk that is too deep starts in the same way
(`goes_moments`). So what is called for `part` is a contiguous part of what is called for `whole`,
however far down the two walks can go, if only the walk of `whole` is not too deep. Main statement:
`inner_occasions_contiguous`.
-/

namespace TemplateLint

/-- Nodes that are neighbours in a forest, or further down among the walked children of a node. -/
inductive Spliced (part : List Node) : List Node → Prop
  | here {whole : List Node} (h : part <:+: whole) : Spliced part whole
  | under {n : Node} {cs whole : List Node} (hn : n ∈ whole) (hcs : n.walked? = some cs)
    (h : Spliced part cs) : Spliced part whole

lemma Field.children_nodes (ns : List Node) : (Field.nodes ns).children = ns := by
  simp [nodes, children, List.filterMap_map, Function.comp_def, node?]

lemma Node.walked?_of_set {n : Node} (h : ¬(n.kind.isStrict && n.fields.isEmpty)) :
    n.walked? = some ((n.namedFields.filter fun f => some f.1 != n.kind.skipped?).flatMap
      (·.2.children)) := by
  rw [walked?, steps?, if_neg h]
  simp [List.map_flatMap]

/-- A template is walked through what it holds. -/
lemma Node.walked?_template (line : Option Int) (ns : List Node) :
    (Node.mk .template line [.nodes ns]).walked? = some ns := by
  rw [walked?_of_set (by simp)]
  simp [namedFields, Kind.fieldNames, Kind.skipped?, Field.children_nodes]

namespace Spliced

variable {as bs cs : List Node}

lemma refl (as : List Node) : Spliced as as := .here List.infix_rfl

lemma widen (h : Spliced as bs) (h' : bs <:+: cs) : Spliced as cs := by
  cases h with
  | here h => exact .here (h.trans h')
  | under hn hcs h => exact .under (h'.subset hn) hcs h

lemma trans (h : Spliced as bs) (h' : Spliced bs cs) : Spliced as cs := by
  induction h' with
  | here h' => exact h.widen h'
  | under hn hcs _ ih => exact .under hn hcs ih

/-- The nodes in a walked field are spliced into the node. -/
lemma of_field {k : Kind} {line : Option Int} {fs : List Field} {name : String} {f : Field}
    (hf : (name, f) ∈ k.fieldNames.zip fs) (hs : some name ≠ k.skipped?) :
    Spliced f.children [.mk k line fs] := by
  have hset : ¬ (k.isStrict && fs.isEmpty) := by
    intro hunset
    simp only [Bool.and_eq_true, List.isEmpty_iff] at hunset
    simp [hunset.2] at hf
  refine .under (List.mem_singleton_self _) (Node.walked?_of_set hset) (.here ?_)
  have hmem : (name, f) ∈ (k.fieldNames.zip fs).filter fun f => some f.1 != k.skipped? :=
    List.mem_filter.2 ⟨hf, by simpa using hs⟩
  obtain ⟨before, after, hsplit⟩ := List.append_of_mem hmem
  refine ⟨before.flatMap (·.2.children), after.flatMap (·.2.children), ?_⟩
  change _ = (((k.fieldNames.zip fs).filter fun f => some f.1 != k.skipped?).flatMap
    fun f => f.2.children)
  rw [hsplit]
  simp

lemma of_nodes (name : String) {k : Kind} {line : Option Int} {fs : List Field} {ns : List Node}
    (hf : (name, Field.nodes ns) ∈ k.fieldNames.zip fs) (hs : some name ≠ k.skipped?) :
    Spliced ns [.mk k line fs] := by
  rw [← Field.children_nodes ns]
  exact of_field hf hs

end Spliced

namespace Walk

variable {t : RuleTable} {levels height : Nat}

lemma calls_append {ms : List Moment} (h : ∀ m ∈ ms, m.isVisit) (ms' : List Moment) :
    calls t (ms ++ ms') = calls t ms ++ calls t ms' := by
  induction ms with
  | nil => rfl
  | cons m ms ih =>
    obtain ⟨hm, hms⟩ := List.forall_mem_cons.1 h
    cases m with
    | visit v phase => rw [List.cons_append, calls, calls, ih hms, List.append_assoc]
    | tooDeep => cases hm
    | unset kind => cases hm

/-- Behind a walk that is too deep nothing is called. -/
lemma calls_append_of_tooDeep {ms : List Moment} (h : .tooDeep ∈ ms) (ms' : List Moment) :
    calls t (ms ++ ms') = calls t ms := by
  induction ms with
  | nil => cases h
  | cons m ms ih =>
    cases m with
    | visit v phase =>
      have hms : .tooDeep ∈ ms := by simpa using h
      rw [List.cons_append, calls, calls, ih hms]
    | tooDeep => rfl
    | unset kind => rfl

/-! ### What is called for -/

/-- What callbacks are called for when a node is entered or left. -/
def occasionsFor (t : RuleTable) (n : Node) (phase : Phase) : List Occasion :=
  (t.callbacksOf n.kind phase).map fun r => ⟨r.rule, r.key, n⟩

lemma map_occasion_callsFor (v : Visit) (phase : Phase) :
    (callsFor t v phase).map Call.occasion = occasionsFor t v.node phase := by
  rw [callsFor, List.map_map]
  rfl

/-- What callbacks are called for below and including a node, as far as the given number of levels
goes, if nothing ends the walk. -/
def occasionsAt (t : RuleTable) : Nat → Node → List Occasion
  | 0, _ => []
  | height + 1, n =>
    occasionsFor t n .enter ++
      ((n.walked?.getD []).flatMap (occasionsAt t height) ++ occasionsFor t n .exit)

/-- What callbacks are called for in a forest. -/
def occasionsIn (t : RuleTable) (ns : List Node) : List Occasion :=
  ns.flatMap fun n => occasionsAt t n.height n

lemma height_lt_of_mem_walked {n c : Node} {cs : List Node} (h : n.walked? = some cs)
    (hc : c ∈ cs) : c.height < n.height := by
  obtain ⟨links, hlinks, rfl⟩ := Option.map_eq_some_iff.1 h
  obtain ⟨link, hlink, rfl⟩ := List.mem_map.1 hc
  rw [Node.steps?_eq hlinks] at hlink
  exact Node.height_lt_of_mem_children
    (Node.mem_children_of_mem_links (List.mem_filter.1 hlink).1)

/-- Levels below the tree make no difference. -/
lemma occasionsAt_of_le {n : Node} {height' : Nat} (h : n.height ≤ height)
    (h' : n.height ≤ height') : occasionsAt t height n = occasionsAt t height' n := by
  induction height generalizing height' n with
  | zero =>
    obtain ⟨k, l, fs⟩ := n
    simp [Node.height] at h
  | succ height ih =>
    obtain ⟨height', rfl⟩ : ∃ k, height' = k + 1 := by
      obtain ⟨k, l, fs⟩ := n
      simp only [Node.height] at h'
      exact ⟨height' - 1, by omega⟩
    rw [occasionsAt, occasionsAt]
    congr 2
    cases hcs : n.walked? with
    | none => rfl
    | some cs =>
      refine List.flatMap_congr fun c hc => ?_
      have hlt := height_lt_of_mem_walked hcs hc
      exact ih (by omega) (by omega)

lemma occasionsAt_height {n : Node} {cs : List Node} (h : n.walked? = some cs) :
    occasionsAt t n.height n =
      occasionsFor t n .enter ++ (occasionsIn t cs ++ occasionsFor t n .exit) := by
  obtain ⟨height, hheight⟩ : ∃ k, n.height = k + 1 := by
    obtain ⟨k, l, fs⟩ := n
    exact ⟨_, rfl⟩
  rw [hheight, occasionsAt, h]
  congr 2
  refine List.flatMap_congr fun c hc => ?_
  have hlt := height_lt_of_mem_walked h hc
  exact occasionsAt_of_le (by omega) (le_refl _)

/-- **What stands together is called for together.** -/
theorem occasionsIn_infix_of_spliced {part whole : List Node} (h : Spliced part whole) :
    occasionsIn t part <:+: occasionsIn t whole := by
  induction h with
  | here h =>
    obtain ⟨before, after, rfl⟩ := h
    simp only [occasionsIn, List.flatMap_append]
    exact List.infix_append _ _ _
  | @under n cs whole hn hcs _ ih =>
    have hnode : occasionsIn t cs <:+: occasionsAt t n.height n := by
      rw [occasionsAt_height hcs]
      exact ⟨occasionsFor t n .enter, occasionsFor t n .exit, by simp⟩
    obtain ⟨before, after, rfl⟩ := List.append_of_mem hn
    refine (ih.trans hnode).trans ⟨occasionsIn t before, occasionsIn t after, ?_⟩
    simp [occasionsIn]

/-! ### Walks that may be too deep -/

/-- Callbacks are called for `os` at the moments, or for the first of them if these go too deep. -/
structure Goes (t : RuleTable) (ms : List Moment) (os : List Occasion) : Prop where
  set : ∀ kind, .unset kind ∉ ms
  starts : (calls t ms).map Call.occasion <+: os
  whole : .tooDeep ∉ ms → (calls t ms).map Call.occasion = os

lemma Goes.isVisit {ms : List Moment} {os : List Occasion} (h : Goes t ms os)
    (hdeep : .tooDeep ∉ ms) : ∀ m ∈ ms, m.isVisit := by
  intro m hm
  cases m with
  | visit v phase => rfl
  | tooDeep => exact absurd hm hdeep
  | unset kind => exact absurd hm (h.set kind)

lemma Goes.append {ms ms' : List Moment} {os os' : List Occasion} (h : Goes t ms os)
    (h' : Goes t ms' os') : Goes t (ms ++ ms') (os ++ os') := by
  have hset : ∀ kind, .unset kind ∉ ms ++ ms' := fun kind hmem =>
    (List.mem_append.1 hmem).elim (h.set kind) (h'.set kind)
  by_cases hdeep : .tooDeep ∈ ms
  · refine ⟨hset, ?_, fun hnot => absurd (List.mem_append_left _ hdeep) hnot⟩
    rw [calls_append_of_tooDeep hdeep]
    exact h.starts.trans (List.prefix_append _ _)
  · have hcalls : (calls t (ms ++ ms')).map Call.occasion =
        os ++ (calls t ms').map Call.occasion := by
      rw [calls_append (h.isVisit hdeep), List.map_append, h.whole hdeep]
    refine ⟨hset, ?_, fun hnot => ?_⟩
    · rw [hcalls]
      exact (List.prefix_append_right_inj _).2 h'.starts
    · rw [hcalls, h'.whole fun hmem => hnot (List.mem_append_right _ hmem)]

lemma goes_visit (v : Visit) (phase : Phase) :
    Goes t [.visit v phase] (occasionsFor t v.node phase) := by
  have hcalls : (calls t [.visit v phase]).map Call.occasion = occasionsFor t v.node phase := by
    have hone : calls t [.visit v phase] = callsFor t v phase := List.append_nil _
    rw [hone, map_occasion_callsFor]
  exact ⟨by simp, by rw [hcalls], fun _ => hcalls⟩

/-- The moments of walks one after the other. -/
def momentsOf (levels : Nat) (vs : List Visit) : List Moment := vs.flatMap (moments levels)

lemma moments_succ {v : Visit} {cs : List (Link × Node)} (h : v.node.steps? = some cs)
    (levels : Nat) : moments (levels + 1) v =
      .visit v .enter :: (momentsOf levels (cs.map v.child) ++ [.visit v .exit]) := by
  rw [moments, h, momentsOf, List.flatMap_map]

lemma goes_momentsOf {vs : List Visit}
    (h : ∀ v ∈ vs, Goes t (moments levels v) (occasionsAt t v.node.height v.node)) :
    Goes t (momentsOf levels vs) (occasionsIn t (vs.map (·.node))) := by
  induction vs with
  | nil => exact ⟨by simp [momentsOf], List.nil_prefix, fun _ => rfl⟩
  | cons v vs ih =>
    obtain ⟨hv, hvs⟩ := List.forall_mem_cons.1 h
    exact hv.append (ih hvs)

/-- **A walk through a complete tree calls for its nodes**, as far as it goes. -/
theorem goes_moments (levels : Nat) {v : Visit} (h : v.node.Complete) :
    Goes t (moments levels v) (occasionsAt t v.node.height v.node) := by
  induction levels generalizing v with
  | zero => exact ⟨by simp [moments], List.nil_prefix, by simp [moments]⟩
  | succ levels ih =>
    obtain ⟨cs, hcs, hcomplete⟩ := h.steps
    have hchildren : Goes t (momentsOf levels (cs.map v.child))
        (occasionsIn t (cs.map (·.2))) := by
      have hvs : Goes t (momentsOf levels (cs.map v.child))
          (occasionsIn t ((cs.map v.child).map (·.node))) :=
        goes_momentsOf (List.forall_mem_map.2 fun c hc => ih (hcomplete c hc))
      rwa [List.map_map] at hvs
    have hwalked : v.node.walked? = some (cs.map (·.2)) := by
      rw [Node.walked?, hcs]
      rfl
    rw [moments_succ hcs, occasionsAt_height hwalked]
    exact (goes_visit v .enter).append (hchildren.append (goes_visit v .exit))

/-! ### Below the root -/

/-- Below a visit the ways go on from where it is. -/
lemma prefix_of_visit_mem_moments {v v' : Visit} {phase : Phase}
    (h : .visit v' phase ∈ moments levels v) : v.path <+: v'.path := by
  induction levels generalizing v with
  | zero => simp [moments] at h
  | succ levels ih =>
    simp only [moments] at h
    split at h
    · simp only [List.mem_cons, Moment.visit.injEq, reduceCtorEq, List.not_mem_nil, or_false] at h
      rw [h.1]
    · simp only [List.mem_cons, List.mem_append, List.mem_flatMap, Moment.visit.injEq,
        List.not_mem_nil, or_false] at h
      rcases h with h | ⟨c, -, h⟩ | h
      · rw [h.1]
      · exact (List.prefix_append _ _).trans (ih h)
      · rw [h.1]

lemma visit_mem_of_mem_calls {ms : List Moment} {c : Call} (h : c ∈ calls t ms) :
    ∃ phase, .visit c.visit phase ∈ ms := by
  induction ms with
  | nil => cases h
  | cons m ms ih =>
    cases m with
    | tooDeep => cases h
    | unset kind => cases h
    | visit v phase =>
      rcases List.mem_append.1 h with h | h
      · obtain ⟨r, -, rfl⟩ := List.mem_map.1 h
        exact ⟨phase, List.mem_cons_self⟩
      · obtain ⟨phase', h⟩ := ih h
        exact ⟨phase', List.mem_cons_of_mem _ h⟩

/-- The calls for nodes below the root. -/
def inner (cs : List Call) : List Call := cs.filter fun c => !c.visit.isRoot

lemma inner_append (cs cs' : List Call) : inner (cs ++ cs') = inner cs ++ inner cs' :=
  List.filter_append ..

lemma inner_callsFor_root (root : Node) (phase : Phase) :
    inner (callsFor t ⟨root, []⟩ phase) = [] := by
  refine List.filter_eq_nil_iff.2 fun c hc => ?_
  obtain ⟨r, -, rfl⟩ := List.mem_map.1 hc
  simp [Visit.isRoot]

lemma inner_calls_momentsOf {root : Node} (cs : List (Link × Node)) :
    inner (calls t (momentsOf levels (cs.map (⟨root, []⟩ : Visit).child))) =
      calls t (momentsOf levels (cs.map (⟨root, []⟩ : Visit).child)) := by
  refine List.filter_eq_self.2 fun c hc => ?_
  obtain ⟨phase, hv⟩ := visit_mem_of_mem_calls hc
  obtain ⟨v, hmem, hv⟩ := List.mem_flatMap.1 hv
  obtain ⟨link, -, rfl⟩ := List.mem_map.1 hmem
  have hne : c.visit.path ≠ [] := fun hnil => by
    have hprefix := prefix_of_visit_mem_moments hv
    rw [hnil, List.prefix_nil] at hprefix
    simp [Visit.child] at hprefix
  simpa [Visit.isRoot] using hne

/-- Without the calls for the root, those for its children are left. -/
lemma inner_calls_moments {root : Node} {cs : List (Link × Node)} (hroot : root.Complete)
    (hcs : root.steps? = some cs) :
    inner (calls t (moments (levels + 1) ⟨root, []⟩)) =
      calls t (momentsOf levels (cs.map (⟨root, []⟩ : Visit).child)) := by
  have hsteps : (⟨root, []⟩ : Visit).node.steps? = some cs := hcs
  have hgoes := goes_moments (t := t) (levels + 1) (v := ⟨root, []⟩) hroot
  set ms := momentsOf levels (cs.map (⟨root, []⟩ : Visit).child)
  have hinner : inner (calls t ms) = calls t ms := inner_calls_momentsOf cs
  rw [moments_succ hsteps, calls, inner_append, inner_callsFor_root, List.nil_append]
  by_cases hdeep : .tooDeep ∈ ms
  · rw [calls_append_of_tooDeep hdeep, hinner]
  · have hvisits : ∀ m ∈ ms, m.isVisit := by
      intro m hm
      rw [moments_succ hsteps] at hgoes
      cases m with
      | visit v phase => rfl
      | tooDeep => exact absurd hm hdeep
      | unset kind => exact absurd (.tail _ (List.mem_append_left _ hm)) (hgoes.set kind)
    rw [calls_append hvisits, inner_append, hinner]
    simp [calls, inner_callsFor_root]

/-- **What stands together is walked together.** If the walk of a tree is not too deep, then the
occasions for nodes that are spliced into it are the same as when they are walked under a root of
their own, as far as that walk goes, and they are a contiguous part of those of the tree. -/
theorem inner_occasions_contiguous {root whole : Node} {ns ms : List Node}
    (hroot : root.Complete) (hwhole : whole.Complete) (hns : root.walked? = some ns)
    (hms : whole.walked? = some ms) (hsplice : Spliced ns ms) (levels levels' : Nat)
    (hdeep : .tooDeep ∉ moments levels' ⟨whole, []⟩) :
    (inner (calls t (moments levels ⟨root, []⟩))).map Call.occasion <:+:
      (calls t (moments levels' ⟨whole, []⟩)).map Call.occasion := by
  have hinner : (inner (calls t (moments levels ⟨root, []⟩))).map Call.occasion <+:
      occasionsIn t ns := by
    cases levels with
    | zero => exact List.nil_prefix
    | succ levels =>
      obtain ⟨cs, hcs, hcomplete⟩ := hroot.steps
      have hgoes : Goes t (momentsOf levels (cs.map (⟨root, []⟩ : Visit).child))
          (occasionsIn t ((cs.map (⟨root, []⟩ : Visit).child).map (·.node))) :=
        goes_momentsOf (List.forall_mem_map.2 fun c hc => goes_moments levels (hcomplete c hc))
      have hnodes : (cs.map (⟨root, []⟩ : Visit).child).map (·.node) = ns := by
        rw [Node.walked?, hcs] at hns
        rw [List.map_map]
        exact Option.some.inj hns
      rw [inner_calls_moments hroot hcs, ← hnodes]
      exact hgoes.starts
  have htree : occasionsIn t ms <:+: (calls t (moments levels' ⟨whole, []⟩)).map Call.occasion := by
    rw [(goes_moments (t := t) levels' (v := ⟨whole, []⟩) hwhole).whole hdeep,
      occasionsAt_height hms]
    exact ⟨occasionsFor t whole .enter, occasionsFor t whole .exit, by simp⟩
  exact (hinner.isInfix.trans (occasionsIn_infix_of_spliced hsplice)).trans htree

end Walk

end TemplateLint
