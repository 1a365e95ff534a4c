import TemplateLint.Proofs.Walk.Dispatch

/-!
A callback that fails cuts the run off there.

The calls of a walk are made up to the first one that fails, and none after it. Which calls fail is
up to the callbacks, in entering as well as in leaving a node; since a visit has the way to its
node, a callback can fail for one of two equal nodes and not for the other. What has been recorded
by then stays in the document, since the report is drained behind the walk, and the document is left
in any case. Main statement: `cut_of_fault`.
-/

namespace TemplateLint

namespace Walk

variable {w : View} {t : RuleTable}

lemma effectsOfCalls_append (cs cs' : List Call) :
    effectsOfCalls w (cs ++ cs') =
      match effectsOfCalls w cs with
      | (es, none) => (es ++ (effectsOfCalls w cs').1, (effectsOfCalls w cs').2)
      | (es, some f) => (es, some f) := by
  induction cs with
  | nil => rfl
  | cons c cs ih =>
    rw [List.cons_append, effectsOfCalls, effectsOfCalls, ih]
    cases c.fault? w with
    | none =>
      rcases effectsOfCalls w cs with ⟨es, _ | f⟩
      · simp
      · rfl
    | some f => rfl

lemma effectsOfCalls_of_fault {before : List Call} {c : Call} {f : CallbackFault}
    (hbefore : ∀ b ∈ before, b.fault? w = none) (hc : c.fault? w = some f) (later : List Call) :
    effectsOfCalls w (before ++ c :: later) = ((before ++ [c]).flatMap (·.effects w), some f) := by
  rw [effectsOfCalls_append, effectsOfCalls_of_quiet hbefore, effectsOfCalls, hc]
  simp

/-- The first call that fails, if one does. -/
lemma exists_first_fault {cs : List Call} (h : ∃ c ∈ cs, c.fault? w ≠ none) :
    ∃ before c later f, cs = before ++ c :: later ∧ (∀ b ∈ before, b.fault? w = none) ∧
      c.fault? w = some f := by
  cases hfind : cs.find? (fun c => (c.fault? w).isSome) with
  | none =>
    obtain ⟨c, hc, hfault⟩ := h
    have := List.find?_eq_none.1 hfind c hc
    simp only [Bool.not_eq_true, Option.isSome_eq_false_iff, Option.isNone_iff_eq_none] at this
    exact absurd this hfault
  | some c =>
    obtain ⟨hc, before, later, rfl, hbefore⟩ := List.find?_eq_some_iff_append.1 hfind
    obtain ⟨f, hf⟩ := Option.isSome_iff_exists.1 hc
    exact ⟨before, c, later, f, rfl, fun b hb => by simpa using hbefore b hb, hf⟩

lemma fault_trace {ms : List Moment} {f : CallbackFault}
    (h : (effectsOfCalls w (calls t ms)).2 = some f) (n : Nat) :
    (trace w t ms n).fault = some (.callback f) := by
  induction ms generalizing n with
  | nil => cases h
  | cons m ms ih =>
    cases m with
    | tooDeep => cases h
    | unset kind => cases h
    | visit v phase =>
      rw [calls, effectsOfCalls_append] at h
      rw [trace]
      rcases he : effectsOfCalls w (callsFor t v phase) with ⟨es, _ | g⟩ <;> rw [he] at h
      · exact ih h _
      · cases h
        rfl

end Walk

namespace Lint

open Walk

variable {t : RuleTable} {levels : Nat} {w : View} {root : Node}

/-- The run in which a tree is walked as a new document that looks like `w`. -/
def entering (w : View) (run : Run) : Run :=
  let run := run.tell [⟨.debug, .lint, s!"Linting {w.filename}"⟩]
  let (session, i) := run.session.add { toView := w }
  { run with session := session.enter i }

def leaving (run : Run) : Run := { run with session := run.session.leave }

lemma view?_entering (w : View) (run : Run) : (entering w run).session.view? = some w := by
  simp [entering, Session.view?, Session.document?, Session.add, Session.enter, Run.tell]

lemma tree_of_fault (index : SourceIndex) (filename app : Option String) (run : Run) {f : Fault}
    (h : (traceOf t levels (viewOf root index filename app) root).fault = some f) :
    (tree t levels root index filename app run).1 =
      leaving ((entering (viewOf root index filename app) run).addAll
        (traceOf t levels (viewOf root index filename app) root).effects) := by
  set w := viewOf root index filename app
  have hwalk : walk t levels root (entering w run) = _ := walk_eq (view?_entering w run)
  rw [walkedLog, h] at hwalk
  have hdocument : walkDocument t levels { toView := w } root
      (run.tell [⟨.debug, .lint, s!"Linting {w.filename}"⟩]) =
        ({ walk t levels root (entering w run) with
          run := leaving (walk t levels root (entering w run)).run },
          run.session.documents.length) := rfl
  have htree : (tree t levels root index filename app run).1 =
      leaving (((entering w run).addAll (traceOf t levels w root).effects).tell []) := by
    rw [hwalk] at hdocument
    unfold tree
    rw [show (⟨filenameOr filename, index, some root, app⟩ : View) = w from rfl]
    dsimp only
    rw [hdocument]
  rw [htree, Run.tell, List.append_nil]

/-- How linting a tree ends if `last` is the first call that fails, after the calls before it. -/
structure Cut (w : View) (before : List Call) (last : Call) (cause : Failure) (run : Run)
    (result : Run × Except Fault Report) : Prop where
  /-- The calls up to the failing one are made in the new document, and nothing else is done. -/
  made : result.1 = leaving (make (before ++ [last]) (entering w run)).1
  /-- What is raised names the callback, the line of the node and the cause. -/
  raised : result.2 = .error (.callback ⟨last.rule, last.registration.category,
    last.registration.phase, last.visit.node.line, cause⟩)
  /-- What is noted is what these calls note, the failing one up to its failure. -/
  events : result.1.events =
    run.events ++ eventsOf ((before ++ [last]).flatMap (·.effects w))
  /-- What they record is still in the buffers of the document, in order. -/
  document : ∃ d, result.1.session.documents = run.session.documents ++ [d] ∧ d.toView = w ∧
    ∀ s, d.buffer s = (diagnosticsOf ((before ++ [last]).flatMap (·.effects w))).filter
      fun e => e.severity = s
  /-- The same documents are open as before. -/
  opened : result.1.session.opened = run.session.opened
  /-- Nothing is told about a report. -/
  log : ∃ more, result.1.log = run.log ++ more ∧ ∀ r ∈ more, r.teller ≠ .reporter

/-- **A callback that fails cuts the run off there.** If a call of the walk fails, then the first
such call is the last one that is made. -/
theorem cut_of_fault (t : RuleTable) (levels : Nat) (root : Node) (index : SourceIndex)
    (filename app : Option String) (run : Run)
    (h : ∃ c ∈ calls t (moments levels ⟨root, []⟩),
      (c.outcome (viewOf root index filename app)).2 ≠ none) :
    ∃ before last later cause,
      calls t (moments levels ⟨root, []⟩) = before ++ last :: later ∧
      (∀ c ∈ before, (c.outcome (viewOf root index filename app)).2 = none) ∧
      (last.outcome (viewOf root index filename app)).2 = some cause ∧
      Cut (viewOf root index filename app) before last cause run
        (tree t levels root index filename app run) := by
  set w := viewOf root index filename app
  have hfault : ∀ c : Call, c.fault? w = none ↔ (c.outcome w).2 = none :=
    fun c => Option.map_eq_none_iff
  obtain ⟨c, hc, hraises⟩ := h
  obtain ⟨before, last, later, f, hcalls, hbefore, hlast⟩ :=
    exists_first_fault ⟨c, hc, fun h => hraises ((hfault c).1 h)⟩
  obtain ⟨cause, hcause, rfl⟩ := Option.map_eq_some_iff.1 hlast
  refine ⟨before, last, later, cause, hcalls, fun b hb => (hfault b).1 (hbefore b hb), hcause, ?_⟩
  have htrace : (traceOf t levels w root).fault = some (.callback _) :=
    fault_trace (by rw [hcalls, effectsOfCalls_of_fault hbefore hlast]) 0
  have heffects : (traceOf t levels w root).effects = (before ++ [last]).flatMap (·.effects w) := by
    rw [traceOf, effects_trace, ← effects_effectsOfCalls, hcalls,
      effectsOfCalls_of_fault hbefore hlast]
  refine ⟨?_, ?_, ?_, ?_, tree_opened .., ?_⟩
  · rw [tree_of_fault index filename app run htrace, make_eq (view?_entering w run),
      effectsOfCalls_of_fault hbefore hlast, heffects]
  · rw [tree_eq, htrace]
  · rw [tree_events, heffects]
  · refine ⟨_, by rw [tree_eq, htrace], Document.toView_addAll .., fun s => ?_⟩
    rw [Document.buffer_addAll, heffects]
    cases s <;> rfl
  · refine ⟨treeLog w (traceOf t levels w root), by rw [tree_eq, htrace], fun r hr => ?_⟩
    rw [treeLog, walkedLog, htrace, List.append_nil] at hr
    obtain rfl | hr := List.mem_cons.1 hr
    · simp
    · obtain ⟨e, -, rfl⟩ := List.mem_map.1 hr
      simp [Run.recorded]

/-- A rule that records names and fails for the second one of an output, and one that notes
documents when they are left. -/
def pickyTable : RuleTable :=
  let warn : Act := .record .warn (some "a name") (some 1)
  let pick : Callback := fun _ v =>
    if v.path.getLast? = some ⟨.output, "nodes", 1⟩ then [warn, .fail (.raised .value "picky")]
    else [warn]
  let note : Callback := fun _ v => [.note (.visit v.node.kind.label v.node.line)]
  ⟨.standard, ["picky", "late"], [⟨"picky", "Symbol", .enter, pick⟩, ⟨"late", "Root", .exit, note⟩]⟩

def twiceTree : Node :=
  let name : Node := .mk .name (some 1) [.text "x", .text "load"]
  .mk .template (some 1) [.nodes [.mk .output (some 1) [.nodes [name, name]]]]

/-- Of two calls for equal nodes the second one fails, and the third call is not made. -/
theorem cut_of_fault_picky :
    let w := viewOf twiceTree .empty none none
    let cs := calls pickyTable (moments 3 ⟨twiceTree, []⟩)
    (∃ a b c, cs = [a, b, c] ∧ a.visit.node = b.visit.node ∧ (a.outcome w).2 = none ∧
      (b.outcome w).2 ≠ none) ∧
    (∃ c ∈ cs, (c.outcome w).2 ≠ none) ∧
    ∃ before last later cause, cs = before ++ last :: later ∧
      (∀ c ∈ before, (c.outcome w).2 = none) ∧ (last.outcome w).2 = some cause ∧
      Cut w before last cause (.start .empty)
        (tree pickyTable 3 twiceTree .empty none none (.start .empty)) := by
  intro w cs
  obtain ⟨a, b, c, hcs, hsame, ha, hb⟩ : ∃ a b c, cs = [a, b, c] ∧ a.visit.node = b.visit.node ∧
      (a.outcome w).2 = none ∧ (b.outcome w).2 = some (.raised .value "picky") :=
    ⟨_, _, _, rfl, rfl, rfl, rfl⟩
  have hraises : ∃ c ∈ cs, (c.outcome w).2 ≠ none :=
    ⟨b, by simp [hcs], by simp [hb]⟩
  exact ⟨⟨a, b, c, hcs, hsame, ha, by simp [hb]⟩, hraises,
    cut_of_fault pickyTable 3 twiceTree .empty none none (.start .empty) hraises⟩

end Lint

end TemplateLint
