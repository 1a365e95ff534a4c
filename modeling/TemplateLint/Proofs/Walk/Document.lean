import TemplateLint.Lint
import TemplateLint.Proofs.Walk.Trace

/-!
Linting a tree, in terms of the trace of its walk.

The document that is linted is added to the session, gets the diagnostics of the trace, and is left
again; the other documents and the open ones stay as they were. So the outcome of linting a tree is
a function of the tree, the rule table and the view of the document (`tree_outcome`), whatever has
been linted before.
-/

namespace TemplateLint

namespace Run

/-- What is told about effects. -/
def logOf (es : List Effect) : Log := (diagnosticsOf es).map fun e => recorded e.rule e

lemma session_addAll {r : Run} {i : Nat} {is : List Nat} (h : r.session.opened = i :: is)
    (es : List Effect) :
    (r.addAll es).session.documents =
      r.session.documents.modify i (·.addAll (diagnosticsOf es)) := by
  induction es generalizing r with
  | nil => exact (List.modify_id i _).symm
  | cons e es ih =>
    have ho : (r.add e).session.opened = i :: is := (opened_add r e).trans h
    rw [addAll_cons, ih ho]
    cases e with
    | recorded e =>
      have hd : (r.add (.recorded e)).session.documents =
          r.session.documents.modify i (·.add e) := by
        simp only [add, Session.addHere, h, Session.modifyAt]
      rw [hd, List.modify_modify_eq]
      rfl
    | noted e => rfl

lemma events_addAll (r : Run) (es : List Effect) :
    (r.addAll es).events = r.events ++ eventsOf es := by
  induction es generalizing r with
  | nil => simp
  | cons e es ih =>
    rw [addAll_cons, ih]
    cases e <;> simp [add]

lemma log_addAll (r : Run) (es : List Effect) : (r.addAll es).log = r.log ++ logOf es := by
  induction es generalizing r with
  | nil => simp [logOf]
  | cons e es ih =>
    rw [addAll_cons, ih]
    cases e <;> simp [add, logOf]

end Run

namespace Lint

open Walk

/-- What rules see of a tree that is linted. -/
def viewOf (root : Node) (index : SourceIndex) (filename app : Option String) : View :=
  ⟨filenameOr filename, index, some root, app⟩

/-- The trace of the walk through a tree, as far as the given number of levels goes. -/
def traceOf (t : RuleTable) (levels : Nat) (w : View) (root : Node) : Trace :=
  trace w t (moments levels ⟨root, []⟩) 0

/-- The report of a document that looks like `w` and holds the given diagnostics. -/
def reportOf (w : View) (ds : List Diagnostic) : Report where
  filename := w.filename
  logs := ds.filter fun e => e.severity = .log
  warnings := ds.filter fun e => e.severity = .warn
  fatals := ds.filter fun e => e.severity = .fatal

/-- The outcome of linting a tree. -/
def outcomeOf (t : RuleTable) (levels : Nat) (w : View) (root : Node) : Except Fault Report :=
  match (traceOf t levels w root).fault with
  | some f => .error f
  | none => .ok (reportOf w (diagnosticsOf (traceOf t levels w root).effects))

lemma report_addAll (w : View) (ds : List Diagnostic) :
    (Document.addAll { toView := w } ds).report = reportOf w ds := by
  have hb := Document.buffer_addAll { toView := w } ds
  have hn : (Document.addAll { toView := w } ds).filename = w.filename :=
    congrArg View.filename (Document.toView_addAll { toView := w } ds)
  have hl := hb .log
  have hw := hb .warn
  have hf := hb .fatal
  simp only [Document.buffer, List.nil_append] at hl hw hf
  simp only [Document.report, reportOf, hl, hw, hf, hn]

/-- What is told at the end of a walk that goes to its end. -/
def walkedLog (tr : Trace) : Log :=
  match tr.fault with
  | some _ => []
  | none => [⟨.debug, .walker, s!"Walked {tr.visited} node(s)"⟩]

lemma walk_eq {t : RuleTable} {levels : Nat} {w : View} {root : Node} {run : Run}
    (hw : run.session.view? = some w) :
    walk t levels root run =
      ⟨(run.addAll (traceOf t levels w root).effects).tell (walkedLog (traceOf t levels w root)),
        (traceOf t levels w root).visited, (traceOf t levels w root).fault⟩ := by
  have h : follow t (moments levels ⟨root, []⟩) 0 run = _ := follow_eq hw _ 0
  simp only [walk, h, traceOf, walkedLog]
  cases (trace w t (moments levels ⟨root, []⟩) 0).fault with
  | none => rfl
  | some f => simp [Run.tell]

lemma modify_length_append {α : Type} (xs : List α) (x : α) (f : α → α) :
    (xs ++ [x]).modify xs.length f = xs ++ [f x] := by
  induction xs with
  | nil => rfl
  | cons y ys ih => simp [ih]

/-- A document that is walked gets the diagnostics of the trace. It is closed afterwards, and
nothing else in the session changes. -/
theorem walkDocument_eq (t : RuleTable) (levels : Nat) (d : Document) (root : Node) (run : Run) :
    let tr := traceOf t levels d.toView root
    walkDocument t levels d root run =
      (⟨⟨⟨run.session.documents ++ [d.addAll (diagnosticsOf tr.effects)], run.session.opened⟩,
          run.events ++ eventsOf tr.effects, run.log ++ Run.logOf tr.effects ++ walkedLog tr⟩,
        tr.visited, tr.fault⟩, run.session.documents.length) := by
  intro tr
  set entered : Run := { run with session := (run.session.add d).1.enter (run.session.add d).2 }
    with he
  have hv : entered.session.view? = some d.toView := by
    simp [he, Session.view?, Session.document?, Session.add, Session.enter]
  have hd : (entered.addAll tr.effects).session.documents =
      run.session.documents ++ [d.addAll (diagnosticsOf tr.effects)] := by
    have h : entered.session.opened = run.session.documents.length :: run.session.opened := rfl
    rw [Run.session_addAll h]
    exact modify_length_append ..
  have ho : (entered.addAll tr.effects).session.opened =
      run.session.documents.length :: run.session.opened := Run.opened_addAll ..
  have hn : (entered.addAll tr.effects).events = run.events ++ eventsOf tr.effects :=
    Run.events_addAll ..
  have hl : (entered.addAll tr.effects).log = run.log ++ Run.logOf tr.effects :=
    Run.log_addAll ..
  have h : walkDocument t levels d root run =
      ({ walk t levels root entered with
          run := { (walk t levels root entered).run with
            session := (walk t levels root entered).run.session.leave } },
        run.session.documents.length) := rfl
  rw [h, walk_eq hv]
  change _ = (Result.mk (Run.mk (Session.mk _ _) _ _) tr.visited tr.fault, _)
  rw [← hd, ← hn, ← hl]
  simp only [Run.tell, Session.leave, tr, ho, List.tail_cons]

/-- What is told about a tree that is linted, apart from the report. -/
def treeLog (w : View) (tr : Trace) : Log :=
  ⟨.debug, .lint, s!"Linting {w.filename}"⟩ :: Run.logOf tr.effects ++ walkedLog tr

lemma drain_last (ds : List Document) (d : Document) (opened : List Nat) :
    Session.drain ⟨ds ++ [d], opened⟩ ds.length = (some d.report, ⟨ds ++ [d.drained], opened⟩) := by
  simp [Session.drain, Session.modifyAt, modify_length_append]

/-- Linting a tree leaves one document more and the same ones open. It notes and tells what its
trace says, and the report if there is one. -/
theorem tree_eq (t : RuleTable) (levels : Nat) (root : Node) (index : SourceIndex)
    (filename app : Option String) (run : Run) :
    let w := viewOf root index filename app
    let tr := traceOf t levels w root
    let d := Document.addAll { toView := w } (diagnosticsOf tr.effects)
    tree t levels root index filename app run =
      match tr.fault with
      | some f =>
        (⟨⟨run.session.documents ++ [d], run.session.opened⟩, run.events ++ eventsOf tr.effects,
          run.log ++ treeLog w tr⟩, .error f)
      | none =>
        (⟨⟨run.session.documents ++ [d.drained], run.session.opened⟩,
          run.events ++ eventsOf tr.effects,
          run.log ++ treeLog w tr ++ (reportOf w (diagnosticsOf tr.effects)).emit⟩,
          .ok (reportOf w (diagnosticsOf tr.effects))) := by
  intro w tr d
  have h : walkDocument t levels { toView := ⟨filenameOr filename, index, some root, app⟩ } root
      (run.tell [⟨.debug, .lint, s!"Linting {filenameOr filename}"⟩]) = _ := walkDocument_eq ..
  have hr : d.report = reportOf w (diagnosticsOf tr.effects) := report_addAll w _
  simp only [Run.tell] at h
  simp only [tree, emit, Run.tell, h, drain_last, Option.getD_some]
  change (match tr.fault with | some f => _ | none => _) = _
  cases tr.fault with
  | some f => simp [treeLog, tr, d, w, viewOf]
  | none =>
    rw [← hr]
    simp [treeLog, tr, d, w, viewOf]

section

variable (t : RuleTable) (levels : Nat) (root : Node) (index : SourceIndex)
  (filename app : Option String) (run : Run)

/-- **What has been linted before does not matter.** -/
theorem tree_outcome :
    (tree t levels root index filename app run).2 =
      outcomeOf t levels (viewOf root index filename app) root := by
  rw [tree_eq, outcomeOf]
  cases (traceOf t levels (viewOf root index filename app) root).fault <;> rfl

/-- The documents that are open stay open, and no other does. -/
theorem tree_opened :
    (tree t levels root index filename app run).1.session.opened = run.session.opened := by
  rw [tree_eq]
  cases (traceOf t levels (viewOf root index filename app) root).fault <;> rfl

theorem tree_events :
    (tree t levels root index filename app run).1.events =
      run.events ++ eventsOf (traceOf t levels (viewOf root index filename app) root).effects := by
  rw [tree_eq]
  cases (traceOf t levels (viewOf root index filename app) root).fault <;> rfl

end

end Lint

end TemplateLint
