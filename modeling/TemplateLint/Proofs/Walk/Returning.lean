import TemplateLint.Proofs.Rule.Separation
import TemplateLint.Proofs.Walk.Failing

/-!
Linting a tree returns what its rules record, and nothing else.

If no callback fails and the walk comes to its end, then every call is made, whatever has been
recorded before it, and the report splits what the calls record by severity. Whether there is a
report or not, the documents that were open before are open again, and as they were. Main
statement: `returned_of_walkable`.
-/

namespace TemplateLint

namespace Report

variable {x : Report}

lemma status_eq_fatal_iff : x.status = .fatal ↔ x.fatals ≠ [] := by
  unfold status
  cases x.fatals with
  | cons d ds => simp
  | nil => cases x.warnings <;> simp

lemma status_eq_warning_iff : x.status = .warning ↔ x.warnings ≠ [] ∧ x.fatals = [] := by
  unfold status
  cases x.fatals with
  | cons d ds => simp
  | nil => cases x.warnings <;> simp

lemma status_eq_passed_iff : x.status = .passed ↔ x.warnings = [] ∧ x.fatals = [] := by
  unfold status
  cases x.fatals with
  | cons d ds => simp
  | nil => cases x.warnings <;> simp

end Report

namespace Walk

variable {t : RuleTable}

/-- At a mark the callbacks are called that are registered for its phase and a category of its
node. -/
lemma mem_callsAt {m : Mark} {c : Call} :
    c ∈ callsAt t m ↔ c.visit = m.visit ∧ c.registration ∈ t.registrations ∧
      t.covers m.occurrence.node.kind c.registration ∧ c.registration.phase = m.phase := by
  obtain ⟨r, v⟩ := c
  have hmem : r ∈ t.callbacksOf m.occurrence.node.kind m.phase ↔
      r ∈ t.registrations ∧ t.covers m.occurrence.node.kind r ∧ r.phase = m.phase := by
    rw [RuleTable.covers_eq, List.contains_iff_mem, RuleTable.callbacksOf, List.mem_flatMap]
    simp only [RuleTable.callbacksFor, List.mem_filter, Bool.and_eq_true, beq_iff_eq]
    constructor
    · rintro ⟨c, hc, hr, rfl, hphase⟩
      exact ⟨hr, hc, hphase⟩
    · rintro ⟨hr, hc, hphase⟩
      exact ⟨_, hc, hr, rfl, hphase⟩
  rw [← hmem, callsAt, callsFor, List.mem_map]
  constructor
  · rintro ⟨r', hr', heq⟩
    obtain ⟨rfl, rfl⟩ := Call.mk.inj heq
    exact ⟨rfl, hr'⟩
  · rintro ⟨rfl, hr⟩
    exact ⟨r, hr, rfl⟩

/-- What calls record, in order, in a document that looks like `w`. -/
def recordedBy (w : View) (cs : List Call) : List Diagnostic :=
  diagnosticsOf (cs.flatMap (·.effects w))

end Walk

namespace Lint

open Walk

/-- Behind a document that looks like `w` the session is as before. -/
structure Restored (w : View) (before after : Session) : Prop where
  opened : after.opened = before.opened
  /-- The other documents are the same, with what is in their buffers. -/
  documents : ∃ d, after.documents = before.documents ++ [d] ∧ d.toView = w
  held : ∀ d, before.document? = some d → after.document? = some d

lemma document?_of_append {s s' : Session} (hopened : s'.opened = s.opened) {ds : List Document}
    (hdocuments : s'.documents = s.documents ++ ds) {d : Document} (h : s.document? = some d) :
    s'.document? = some d := by
  obtain ⟨i, hi, hd⟩ := Option.bind_eq_some_iff.1 h
  obtain ⟨hlt, -⟩ := List.getElem?_eq_some_iff.1 hd
  rw [Session.document?, hopened, hi, Option.bind_some, hdocuments, List.getElem?_append_left hlt,
    hd]

lemma restored_tree (t : RuleTable) (levels : Nat) (root : Node) (index : SourceIndex)
    (filename app : Option String) (run : Run) :
    Restored (viewOf root index filename app) run.session
      (tree t levels root index filename app run).1.session := by
  have hopened := tree_opened t levels root index filename app run
  obtain ⟨d, hdocuments, hview⟩ : ∃ d,
      (tree t levels root index filename app run).1.session.documents =
        run.session.documents ++ [d] ∧ d.toView = viewOf root index filename app := by
    rw [tree_eq]
    cases (traceOf t levels (viewOf root index filename app) root).fault with
    | some f => exact ⟨_, rfl, Document.toView_addAll ..⟩
    | none => exact ⟨_, rfl, Document.toView_addAll ..⟩
  exact ⟨hopened, ⟨d, hdocuments, hview⟩, fun _ => document?_of_append hopened hdocuments⟩

/-- Linting a tree with the marks `ms` as a document that looks like `w` returns a report. -/
structure Returned (t : RuleTable) (w : View) (root : Node) (run : Run)
    (result : Run × Except Fault Report) (ms : List Mark) (report : Report) : Prop where
  traversal : Node.Traversal root ms
  /-- At every mark there are calls of all callbacks that match … -/
  called : ∀ m ∈ ms, ∀ c, c ∈ callsAt t m ↔ c.visit = m.visit ∧ c.registration ∈ t.registrations ∧
    t.covers m.occurrence.node.kind c.registration ∧ c.registration.phase = m.phase
  /-- … and they are made, one after the other, to the last one. -/
  made : ∃ last, make (ms.flatMap (callsAt t)) (entering w run) = (last, none) ∧
    result.1.events = last.events ∧ last.log = (entering w run).log ++
      (recordedBy w (ms.flatMap (callsAt t))).map fun e => Run.recorded e.rule e
  returned : result.2 = .ok report
  filename : report.filename = w.filename
  /-- The report has what the calls record, by severity. -/
  split : ∀ s, entries report s =
    (recordedBy w (ms.flatMap (callsAt t))).filter fun e => e.severity = s
  fatal : report.status = .fatal ↔
    ∃ e ∈ recordedBy w (ms.flatMap (callsAt t)), e.severity = .fatal
  warning : report.status = .warning ↔
    (∃ e ∈ recordedBy w (ms.flatMap (callsAt t)), e.severity = .warn) ∧
      ∀ e ∈ recordedBy w (ms.flatMap (callsAt t)), e.severity ≠ .fatal
  passed : report.status = .passed ↔
    ∀ e ∈ recordedBy w (ms.flatMap (callsAt t)), e.severity = .log
  /-- Nothing is left in the buffers of the document. -/
  drained : ∃ d, result.1.session.documents = run.session.documents ++ [d] ∧
    ∀ s, d.buffer s = []

/-- The gravest entry decides the status. -/
lemma status_reportOf (w : View) (ds : List Diagnostic) :
    ((reportOf w ds).status = .fatal ↔ ∃ e ∈ ds, e.severity = .fatal) ∧
    ((reportOf w ds).status = .warning ↔
      (∃ e ∈ ds, e.severity = .warn) ∧ ∀ e ∈ ds, e.severity ≠ .fatal) ∧
    ((reportOf w ds).status = .passed ↔ ∀ e ∈ ds, e.severity = .log) := by
  refine ⟨?_, ?_, ?_⟩
  · rw [Report.status_eq_fatal_iff]
    simp [reportOf]
  · rw [Report.status_eq_warning_iff]
    simp [reportOf]
  · rw [Report.status_eq_passed_iff]
    simp only [reportOf, List.filter_eq_nil_iff, decide_eq_true_eq, ← forall_and]
    refine forall_congr' fun e => ?_
    cases e.severity <;> simp

section

variable {t : RuleTable} {levels : Nat} {root : Node} {index : SourceIndex}
  {filename app : Option String}

/-- If no call fails, what is left behind comes from all of them. -/
lemma trace_of_outcomes {w : View}
    (h : ∀ c ∈ calls t (moments levels ⟨root, []⟩), (c.outcome w).2 = none) :
    traceOf t levels w root = ⟨(calls t (moments levels ⟨root, []⟩)).flatMap (·.effects w),
      (ending (moments levels ⟨root, []⟩) 0).1,
      (ending (moments levels ⟨root, []⟩) 0).2⟩ :=
  trace_of_quiet (fun c hc => Option.map_eq_none_iff.2 (h c hc)) 0

lemma returned_marks (hroot : Walkable levels root) (run : Run)
    (h : ∀ c ∈ calls t (moments levels ⟨root, []⟩),
      (c.outcome (viewOf root index filename app)).2 = none) :
    ∃ report, Returned t (viewOf root index filename app) root run
      (tree t levels root index filename app run) root.marks report := by
  set w := viewOf root index filename app
  set cs := root.marks.flatMap (callsAt t)
  have hmoments := moments_of_walkable hroot
  have hcalls : calls t (moments levels ⟨root, []⟩) = cs := by
    rw [hmoments, calls_map_moment]
  obtain ⟨visited, htrace⟩ : ∃ n,
      traceOf t levels w root = ⟨cs.flatMap (·.effects w), n, none⟩ := by
    rw [trace_of_outcomes h, hcalls, hmoments, ending_map_moment]
    exact ⟨_, rfl⟩
  have hmake : make cs (entering w run) =
      ((entering w run).addAll (cs.flatMap (·.effects w)), none) := by
    have hquiet : ∀ c ∈ cs, c.fault? w = none :=
      fun c hc => Option.map_eq_none_iff.2 (h c (hcalls ▸ hc))
    rw [make_eq (view?_entering w run), effectsOfCalls_of_quiet hquiet]
  obtain ⟨hfatal, hwarning, hpassed⟩ := status_reportOf w (recordedBy w cs)
  refine ⟨reportOf w (recordedBy w cs), Node.traversal_marks root, fun m _ c => mem_callsAt,
    ⟨_, hmake, ?_, Run.log_addAll ..⟩, ?_, rfl, entries_reportOf w _, hfatal, hwarning, hpassed, ?_⟩
  · rw [tree_events, Run.events_addAll, htrace]
    rfl
  · rw [tree_outcome, outcomeOf, htrace]
    rfl
  · exact ⟨Document.drained _, by rw [tree_eq, htrace], fun s => Document.buffer_drained _ s⟩

lemma error_of_not_walkable (hroot : ¬Walkable levels root) (run : Run)
    (h : ∀ c ∈ calls t (moments levels ⟨root, []⟩),
      (c.outcome (viewOf root index filename app)).2 = none) :
    ∃ f, (tree t levels root index filename app run).2 = .error f ∧
      ((∃ visited, f = .tooDeep visited) ∨ ∃ kind, f = .unset kind) := by
  obtain ⟨o, ho, hw, hstop⟩ : ∃ o ∈ root.occurrences, o.walked ∧
      (levels ≤ o.path.length ∨ o.node.steps? = none) := by
    simp only [Walkable, not_forall, not_and_or, not_lt, ne_eq, not_not] at hroot
    obtain ⟨o, ho, hw, hstop⟩ := hroot
    exact ⟨o, ho, hw, hstop⟩
  have hmoment : ∃ m ∈ moments levels ⟨root, []⟩, m.isVisit = false :=
    exists_not_isVisit ho hw (by simpa using hstop)
  rw [tree_outcome, outcomeOf, trace_of_outcomes h]
  rcases ending_of_not_isVisit hmoment 0 with ⟨visited, hend⟩ | ⟨kind, -, hend⟩
  · exact ⟨.tooDeep visited, by rw [hend], .inl ⟨visited, rfl⟩⟩
  · exact ⟨.unset kind, by rw [hend], .inr ⟨kind, rfl⟩⟩

end

/-- **Linting a tree returns exactly what is recorded**, however many levels can be gone down. If no
call of the walk fails, and the walk comes to its end, then all calls are made and what they record
is in the report. If the walk does not come to its end there is no report. In any case the session
is as before. -/
theorem returned_of_walkable (t : RuleTable) (levels : Nat) (root : Node) (index : SourceIndex)
    (filename app : Option String) (run : Run)
    (h : ∀ c ∈ calls t (moments levels ⟨root, []⟩),
      (c.outcome (viewOf root index filename app)).2 = none) :
    Restored (viewOf root index filename app) run.session
      (tree t levels root index filename app run).1.session ∧
    (Walkable levels root → ∃ ms report, Returned t (viewOf root index filename app) root run
      (tree t levels root index filename app run) ms report) ∧
    (¬Walkable levels root → ∃ f, (tree t levels root index filename app run).2 = .error f ∧
      ((∃ visited, f = .tooDeep visited) ∨ ∃ kind, f = .unset kind)) :=
  ⟨restored_tree .., fun hroot => ⟨root.marks, returned_marks hroot run h⟩,
    fun hroot => error_of_not_walkable hroot run h⟩

/-- A rule that records names, and that it leaves them if they stand for values. -/
def chattyTable : RuleTable :=
  let enter : Callback := fun _ v =>
    [.record .warn (some "a name") v.node.line, .record .log (some "entered") none]
  let leave : Callback := fun _ v => [.record .fatal (some "a name is left") v.node.line]
  ⟨.standard, ["chatty"], [⟨"chatty", "Symbol", .enter, enter⟩,
    ⟨"chatty", "Value", .exit, leave⟩]⟩

/-- A document is open in which something has been recorded. -/
def busyRun : Run :=
  let e : Diagnostic := ⟨.fatal, "other", none, "", "open", "x"⟩
  .start ⟨[{ filename := "open", index := .empty, fatals := [e] }], [0]⟩

/-- Entries of every severity are returned, and the open document keeps its own. -/
theorem returned_of_walkable_chatty :
    let w := viewOf callTree .empty none none
    let result := tree chattyTable 4 callTree .empty none none busyRun
    (∀ c ∈ calls chattyTable (moments 4 ⟨callTree, []⟩), (c.outcome w).2 = none) ∧
      Walkable 4 callTree ∧ Restored w busyRun.session result.1.session ∧
      ∃ ms report, Returned chattyTable w callTree busyRun result ms report ∧
        report.logs.length = 1 ∧ report.warnings.length = 1 ∧ report.fatals.length = 1 := by
  intro w result
  have hquiet : ∀ c ∈ calls chattyTable (moments 4 ⟨callTree, []⟩),
      (c.outcome w).2 = none := by
    have hall : ((calls chattyTable (moments 4 ⟨callTree, []⟩)).all
      fun c => (c.outcome w).2.isNone) = true := rfl
    exact fun c hc => Option.isNone_iff_eq_none.1 (List.all_eq_true.1 hall c hc)
  have hwalkable : Walkable 4 callTree := by
    have hall : (callTree.occurrences.all fun o => !o.walked ||
      decide (o.path.length < 4) && o.node.steps?.isSome) = true := by decide
    intro o ho hw
    have := List.all_eq_true.1 hall o ho
    simpa [hw, Option.isSome_iff_ne_none] using this
  obtain ⟨hrestored, hreturned, -⟩ :=
    returned_of_walkable chattyTable 4 callTree .empty none none busyRun hquiet
  obtain ⟨ms, report, hreport⟩ := hreturned hwalkable
  have hok : ∃ r, result.2 = .ok r ∧
      r.logs.length = 1 ∧ r.warnings.length = 1 ∧ r.fatals.length = 1 := ⟨_, rfl, rfl, rfl, rfl⟩
  obtain ⟨r, hr, hlengths⟩ := hok
  obtain rfl := Except.ok.inj (hr.symm.trans hreport.returned)
  exact ⟨hquiet, hwalkable, hrestored, ms, r, hreport, hlengths⟩

/-- Trees for which no callback fails, since there is none, and no report is returned: a sum with
more signs than can be gone down, and a call with fields unset. -/
theorem not_returned_of_deep :
    (∀ levels ≤ 4000,
      (∀ c ∈ calls .empty (moments levels ⟨Node.sum 4000, []⟩),
        (c.outcome (viewOf (Node.sum 4000) .empty none none)).2 = none) ∧
      ∃ visited, (tree .empty levels (Node.sum 4000) .empty none none (.start .empty)).2 =
        .error (.tooDeep visited)) ∧
    (tree .empty 960 (.mk .call (some 1) []) .empty none none (.start .empty)).2 =
      .error (.unset .call) := by
  refine ⟨fun levels hlevels => ?_, rfl⟩
  have hcalls : ∀ c ∈ calls .empty (moments levels ⟨Node.sum 4000, []⟩),
      (c.outcome (viewOf (Node.sum 4000) .empty none none)).2 = none := by
    simp [calls_empty]
  obtain ⟨visited, hend⟩ :=
    ending_of_not_shallow (Node.complete_sum 4000) (not_shallow_sum hlevels) 0
  exact ⟨hcalls, visited, by rw [tree_outcome, outcomeOf, trace_of_outcomes hcalls, hend]⟩

end Lint

end TemplateLint
