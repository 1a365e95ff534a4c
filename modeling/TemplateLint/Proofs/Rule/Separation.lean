import Mathlib
import TemplateLint.Proofs.Walk.Calls
import TemplateLint.Rule.Spec

/-!
Rules do not interfere with one another.

All rules share one session and one document, and their callbacks are called in turns. A rule
registers the same callbacks whatever other rules there are, so the calls of a walk, cut down to
one rule, are the calls that this rule alone would get. What a call leaves behind depends on the
document's view, which no rule can change. Main statement: `share_eq_of_subperm`.
-/

namespace TemplateLint

/-! ### What a rule registers -/

namespace RuleTable

/-- What a rule registers, if it can be created. -/
def partOf (categories : CategoryTable) (r : Rule) : List Registration :=
  ((register categories r).2.toOption).getD []

lemma rule_of_registerAll {categories : CategoryTable} {r : Rule}
    {entries : List (Json × Option Callback)} {rs : List Registration}
    (h : registerAll categories r entries = .ok rs) : ∀ x ∈ rs, x.rule = r.name := by
  induction entries generalizing rs with
  | nil => cases h; simp
  | cons entry entries ih =>
    obtain ⟨key, handler⟩ := entry
    simp only [registerAll] at h
    split at h
    · cases h
    · split at h
      · cases h
      · cases hr : registerAll categories r entries with
        | error f => rw [hr] at h; cases h
        | ok rest =>
          rw [hr] at h
          cases h
          intro x hx
          rcases List.mem_cons.1 hx with rfl | hx
          · rfl
          · exact ih hr x hx

lemma rule_of_register {categories : CategoryTable} {r : Rule} {rs : List Registration}
    (h : (register categories r).2 = .ok rs) : ∀ x ∈ rs, x.rule = r.name := by
  simp only [register] at h
  split at h
  · cases h
  · split at h
    · cases h
    · exact rule_of_registerAll h

lemma rule_of_mem_partOf {categories : CategoryTable} {r : Rule} {x : Registration}
    (h : x ∈ partOf categories r) : x.rule = r.name := by
  cases hr : (register categories r).2 with
  | error f => simp [partOf, hr, Except.toOption] at h
  | ok rs => exact rule_of_register hr x (by simpa [partOf, hr, Except.toOption] using h)

/-- Rules make a table exactly if each of them can be registered. -/
lemma registrationsOf_eq_ok_iff {categories : CategoryTable} {rules : List Rule}
    {regs : List Registration} :
    (registrationsOf categories rules).2 = .ok regs ↔
      (∀ r ∈ rules, (register categories r).2 = .ok (partOf categories r)) ∧
        regs = rules.flatMap (partOf categories) := by
  induction rules generalizing regs with
  | nil => simp [registrationsOf, eq_comm]
  | cons r rules ih =>
    simp only [registrationsOf]
    rcases hr : register categories r with ⟨events, f | first⟩
    · simp [hr]
    · have hp : partOf categories r = first := by simp [partOf, hr, Except.toOption]
      cases hs : (registrationsOf categories rules).2 with
      | error f =>
        have hno : ¬ ∀ x ∈ rules, (register categories x).2 = .ok (partOf categories x) := by
          intro hall
          have := ih.2 ⟨hall, rfl⟩
          rw [hs] at this
          cases this
        simp [Except.map, hno]
      | ok rest =>
        obtain ⟨hall, rfl⟩ := ih.1 hs
        simp only [List.mem_cons, forall_eq_or_imp, hr, hp, List.flatMap_cons, true_and, Except.map,
          Except.ok.injEq]
        exact ⟨fun h => ⟨hall, h.symm⟩, fun h => h.2.symm⟩

lemma build_eq_ok_iff {categories : CategoryTable} {rules : List Rule} {t : RuleTable} :
    (build rules categories).2 = .ok t ↔
      (∀ r ∈ rules, (register categories r).2 = .ok (partOf categories r)) ∧
        t = ⟨categories, rules.map (·.name), rules.flatMap (partOf categories)⟩ := by
  cases h : (registrationsOf categories rules).2 with
  | error f =>
    have hno : ¬ ∀ r ∈ rules, (register categories r).2 = .ok (partOf categories r) := by
      intro hall
      have := registrationsOf_eq_ok_iff.2 ⟨hall, rfl⟩
      rw [h] at this
      cases this
    simp [build, h, Except.map, hno]
  | ok regs =>
    obtain ⟨hall, rfl⟩ := registrationsOf_eq_ok_iff.1 h
    simp only [build, h, Except.map, Except.ok.injEq]
    exact ⟨fun ht => ⟨hall, ht.symm⟩, fun ht => ht.2.symm⟩

/-- Among rules of different names, the registrations of one name are those of one rule. -/
lemma filter_registrations {categories : CategoryTable} {rules : List Rule}
    (hn : (rules.map (·.name)).Nodup) {r : Rule} (hr : r ∈ rules) :
    (rules.flatMap (partOf categories)).filter (·.rule = r.name) = partOf categories r := by
  induction rules with
  | nil => simp at hr
  | cons s rules ih =>
    obtain ⟨hs, hn⟩ := List.nodup_cons.1 hn
    rw [List.flatMap_cons, List.filter_append]
    rcases List.mem_cons.1 hr with rfl | hr
    · have hown : (partOf categories r).filter (·.rule = r.name) = partOf categories r :=
        List.filter_eq_self.2 fun x hx => by simp [rule_of_mem_partOf hx]
      have hother : (rules.flatMap (partOf categories)).filter (·.rule = r.name) = [] := by
        refine List.filter_eq_nil_iff.2 fun x hx => ?_
        obtain ⟨q, hq, hx⟩ := List.mem_flatMap.1 hx
        have hne : q.name ≠ r.name := fun h => hs (List.mem_map.2 ⟨q, hq, h⟩)
        simpa [rule_of_mem_partOf hx] using hne
      rw [hown, hother, List.append_nil]
    · have hother : (partOf categories s).filter (·.rule = r.name) = [] := by
        refine List.filter_eq_nil_iff.2 fun x hx => ?_
        have hne : s.name ≠ r.name := fun h => hs (List.mem_map.2 ⟨r, hr, h.symm⟩)
        simpa [rule_of_mem_partOf hx] using hne
      rw [hother, List.nil_append, ih hn hr]

end RuleTable

/-! ### The calls of one rule -/

namespace Walk

variable {t t' : RuleTable}

lemma filter_callbacksOf (name : String) (k : Kind) (phase : Phase) :
    (t.callbacksOf k phase).filter (·.rule = name) =
      (t.categories.classify k).flatMap fun c =>
        (t.registrations.filter (·.rule = name)).filter fun r =>
          r.category == c && r.phase == phase := by
  simp only [RuleTable.callbacksOf, RuleTable.callbacksFor, List.filter_flatMap,
    List.filter_filter]
  congr 1
  funext c
  congr 1
  funext r
  exact Bool.and_comm ..

/-- Two tables with the same categories and the same registrations of a rule lead to the same
calls of this rule. -/
lemma filter_calls_congr {name : String} (hc : t'.categories = t.categories)
    (hr : t'.registrations.filter (·.rule = name) = t.registrations.filter (·.rule = name))
    (ms : List Moment) :
    (calls t' ms).filter (·.rule = name) = (calls t ms).filter (·.rule = name) := by
  induction ms with
  | nil => rfl
  | cons m ms ih =>
    cases m with
    | tooDeep => rfl
    | unset kind => rfl
    | visit v phase =>
      have hm : ∀ u : RuleTable, (callsFor u v phase).filter (·.rule = name) =
          ((u.callbacksOf v.node.kind phase).filter (·.rule = name)).map (⟨·, v⟩) := fun u =>
        List.filter_map ..
      simp only [calls, List.filter_append, ih, hm, filter_callbacksOf, hc, hr]

end Walk

/-! ### Linting with fewer rules, or in another order -/

lemma filter_eventsOf (name : String) (es : List Effect) :
    (eventsOf es).filter (·.rule = name) = eventsOf (es.filter (·.rule = name)) := by
  induction es with
  | nil => rfl
  | cons e es ih =>
    cases e with
    | recorded e => by_cases h : e.rule = name <;> simp [h, ih]
    | noted e => by_cases h : e.rule = name <;> simp [h, ih]

lemma filter_diagnosticsOf (name : String) (es : List Effect) :
    (diagnosticsOf es).filter (·.rule = name) = diagnosticsOf (es.filter (·.rule = name)) := by
  induction es with
  | nil => rfl
  | cons e es ih =>
    cases e with
    | recorded e => by_cases h : e.rule = name <;> simp [h, ih]
    | noted e => by_cases h : e.rule = name <;> simp [h, ih]

namespace Lint

open Walk

/-- What a rule is called for and what it leaves behind when a tree is linted. -/
structure Share where
  /-- The keys under which it is called, with the visits. -/
  calls : List (String × Visit)
  events : List Event
  /-- What it records, by severity. -/
  diagnostics : Severity → List Diagnostic

/-- The diagnostics that a document has after it has been walked. -/
def recorded (t : RuleTable) (levels : Nat) (d : Document) (root : Node) (run : Run)
    (s : Severity) : List Diagnostic :=
  let (r, i) := walkDocument t levels d root run
  ((r.run.session.documents[i]?).map (·.buffer s)).getD []

/-- The share of the rules of one name in linting a tree. -/
def shareOf (name : String) (t : RuleTable) (levels : Nat) (w : View) (root : Node) (run : Run) :
    Share where
  calls := ((Walk.calls t (moments levels ⟨root, []⟩)).filter (·.rule = name)).map
    fun c => (c.key, c.visit)
  events :=
    ((walkDocument t levels { toView := w } root run).1.run.events.drop run.events.length).filter
      (·.rule = name)
  diagnostics s := (recorded t levels { toView := w } root run s).filter (·.rule = name)

lemma recorded_eq (t : RuleTable) (levels : Nat) (w : View) (root : Node) (run : Run)
    (s : Severity) :
    recorded t levels { toView := w } root run s =
      (diagnosticsOf (traceOf t levels w root).effects).filter fun e => e.severity = s := by
  have h :=
    Document.buffer_addAll { toView := w } (diagnosticsOf (traceOf t levels w root).effects) s
  have he : Document.buffer { toView := w } s = [] := by cases s <;> rfl
  rw [he, List.nil_append] at h
  simp [recorded, walkDocument_eq, h]

/-- The share of a rule, read off the calls: if no callback fails, it depends on the calls of the
rule alone. -/
lemma shareOf_of_quiet {t : RuleTable} {levels : Nat} {w : View} {root : Node} (run : Run)
    (hq : ∀ c ∈ Walk.calls t (moments levels ⟨root, []⟩), c.fault? w = none) (name : String) :
    let cs := (Walk.calls t (moments levels ⟨root, []⟩)).filter (·.rule = name)
    shareOf name t levels w root run =
      ⟨cs.map fun c => (c.key, c.visit), eventsOf (cs.flatMap (·.effects w)),
        fun s => (diagnosticsOf (cs.flatMap (·.effects w))).filter fun e => e.severity = s⟩ := by
  intro cs
  have htr : (traceOf t levels w root).effects =
      (Walk.calls t (moments levels ⟨root, []⟩)).flatMap (·.effects w) := by
    rw [traceOf, trace_of_quiet hq]
  have hcs := filter_effects_rule (w := w) name (Walk.calls t (moments levels ⟨root, []⟩))
  have hev := filter_eventsOf name (traceOf t levels w root).effects
  have hdi := filter_diagnosticsOf name (traceOf t levels w root).effects
  rw [htr, hcs] at hev hdi
  simp only [shareOf, recorded_eq, walkDocument_eq, List.drop_left, Share.mk.injEq]
  refine ⟨rfl, by rw [htr, hev], funext fun s => ?_⟩
  rw [htr, ← hdi, List.filter_filter, List.filter_filter]
  congr 1
  funext e
  exact Bool.and_comm ..

/-- The entries of a report by severity. -/
def entries (r : Report) : Severity → List Diagnostic
  | .log => r.logs
  | .warn => r.warnings
  | .fatal => r.fatals

lemma entries_reportOf (w : View) (ds : List Diagnostic) (s : Severity) :
    entries (reportOf w ds) s = ds.filter fun e => e.severity = s := by
  cases s <;> rfl

/-- If no callback fails, what a report says of a rule is in the share of the rule. -/
lemma filter_entries {t : RuleTable} {levels : Nat} {root : Node} {index : SourceIndex}
    {filename app : Option String} {run : Run} {report : Report}
    (h : (tree t levels root index filename app run).2 = .ok report) (name : String)
    (s : Severity) :
    (entries report s).filter (·.rule = name) =
      (shareOf name t levels (viewOf root index filename app) root run).diagnostics s := by
  rw [tree_outcome, outcomeOf] at h
  split at h
  · cases h
  · cases h
    simp only [shareOf, recorded_eq, entries_reportOf]

/-- With quiet calls, only the tree decides whether it can be linted. -/
lemma outcome_of_quiet {t : RuleTable} {levels : Nat} {w : View} {root : Node}
    (hq : ∀ c ∈ Walk.calls t (moments levels ⟨root, []⟩), c.fault? w = none) (f : Fault) :
    outcomeOf t levels w root = .error f ↔ (ending (moments levels ⟨root, []⟩) 0).2 = some f := by
  have hf : (traceOf t levels w root).fault = (ending (moments levels ⟨root, []⟩) 0).2 := by
    rw [traceOf, trace_of_quiet hq]
  rw [outcomeOf, hf]
  cases (ending (moments levels ⟨root, []⟩) 0).2 <;> simp

lemma nodup_names_of_subperm {rules rules' : List Rule} (hn : (rules.map (·.name)).Nodup)
    (hs : rules'.Subperm rules) : (rules'.map (·.name)).Nodup := by
  obtain ⟨l, hp, hl⟩ := hs
  have h : (l.map (·.name)).Nodup := (hl.map _).nodup hn
  exact (hp.map _).nodup_iff.1 h

/-- **Rules do not interfere with one another.** Leave rules out, or give them in another order:
every rule that is left is called for the same visits under the same keys, and notes and records
the same. No callback may fail when the tree is linted with all rules. -/
theorem share_eq_of_subperm (categories : CategoryTable) (rules rules' : List Rule)
    (hn : (rules.map (·.name)).Nodup) (hs : rules'.Subperm rules) (t : RuleTable)
    (ht : (RuleTable.build rules categories).2 = .ok t) (levels : Nat) (root : Node)
    (index : SourceIndex) (filename app : Option String) (run : Run)
    (hq : ∀ f, (tree t levels root index filename app run).2 ≠ .error (.callback f)) :
    ∃ t', (RuleTable.build rules' categories).2 = .ok t' ∧ ∀ run' : Run,
      (∀ f, (tree t' levels root index filename app run').2 = .error f ↔
        (tree t levels root index filename app run).2 = .error f) ∧
      ∀ r ∈ rules',
        let w := viewOf root index filename app
        shareOf r.name t' levels w root run' = shareOf r.name t levels w root run ∧
        ∀ report report', (tree t levels root index filename app run).2 = .ok report →
          (tree t' levels root index filename app run').2 = .ok report' →
          ∀ s, (entries report' s).filter (·.rule = r.name) =
            (entries report s).filter (·.rule = r.name) := by
  obtain ⟨hall, rfl⟩ := RuleTable.build_eq_ok_iff.1 ht
  have hn' := nodup_names_of_subperm hn hs
  have hmem : ∀ r ∈ rules', r ∈ rules := fun r hr => hs.subset hr
  set t' : RuleTable :=
    ⟨categories, rules'.map (·.name), rules'.flatMap (RuleTable.partOf categories)⟩ with ht'
  set t : RuleTable :=
    ⟨categories, rules.map (·.name), rules.flatMap (RuleTable.partOf categories)⟩
  -- the calls of a rule that is left
  have hcalls : ∀ r ∈ rules', (Walk.calls t' (moments levels ⟨root, []⟩)).filter
      (·.rule = r.name) = (Walk.calls t (moments levels ⟨root, []⟩)).filter
      (·.rule = r.name) := by
    intro r hr
    have hown : t'.registrations.filter (·.rule = r.name) = RuleTable.partOf categories r :=
      RuleTable.filter_registrations hn' hr
    have hfull : t.registrations.filter (·.rule = r.name) = RuleTable.partOf categories r :=
      RuleTable.filter_registrations hn (hmem r hr)
    have hc : t'.categories = t.categories := rfl
    exact filter_calls_congr hc (hown.trans hfull.symm) _
  have hquiet := Quiet.calls (w := viewOf root index filename app) fun f hf =>
    hq f (by rw [tree_outcome, hf])
  have hquiet' : ∀ c ∈ Walk.calls t' (moments levels ⟨root, []⟩),
      c.fault? (viewOf root index filename app) = none := by
    intro c hc
    obtain ⟨r, hr, hx⟩ := List.mem_flatMap.1 (mem_registrations_of_mem_calls hc)
    have hname : c.rule = r.name := RuleTable.rule_of_mem_partOf hx
    have hin : c ∈ (Walk.calls t' (moments levels ⟨root, []⟩)).filter (·.rule = r.name) :=
      List.mem_filter.2 ⟨hc, by simp [hname]⟩
    rw [hcalls r hr] at hin
    exact hquiet c (List.mem_filter.1 hin).1
  refine ⟨t', RuleTable.build_eq_ok_iff.2 ⟨fun r hr => hall r (hmem r hr), rfl⟩, fun run' => ?_⟩
  refine ⟨fun f => ?_, fun r hr => ?_⟩
  · rw [tree_outcome, tree_outcome, outcome_of_quiet hquiet', outcome_of_quiet hquiet]
  · intro w
    have hshare : shareOf r.name t' levels w root run' = shareOf r.name t levels w root run := by
      rw [shareOf_of_quiet run' hquiet', shareOf_of_quiet run hquiet, hcalls r hr]
    refine ⟨hshare, fun report report' h h' s => ?_⟩
    rw [filter_entries h, filter_entries h', hshare]

/-- A rule that warns of every node of a category. -/
def warner (name category : String) : Rule :=
  Spec.toRule ⟨name, [(.str category, some [.record .warn (some "seen") .visited])], [], none⟩ name

def warners : List Rule := [warner "names" "Symbol", warner "outputs" "Output"]

def warnersTable : RuleTable :=
  ⟨.standard, warners.map (·.name), warners.flatMap (RuleTable.partOf .standard)⟩

/-- The tree of an output of one name. -/
def outputTree : Node :=
  .mk .template (some 1) [.nodes [.mk .output (some 1) [.nodes
    [.mk .name (some 1) [.text "x", .text "load"]]]]]

/-- Both rules are called on the tree; the second one by itself has the share that it has there. -/
theorem share_eq_of_outputs_alone :
    (RuleTable.build warners .standard).2 = .ok warnersTable ∧
    (∀ f, (tree warnersTable 3 outputTree .empty none none (.start .empty)).2 ≠
      .error (.callback f)) ∧
    ∃ t, (RuleTable.build [warner "outputs" "Output"] .standard).2 = .ok t ∧
      shareOf "outputs" t 3 (viewOf outputTree .empty none none) outputTree (.start .empty) =
        shareOf "outputs" warnersTable 3 (viewOf outputTree .empty none none) outputTree
          (.start .empty) := by
  have ht : (RuleTable.build warners .standard).2 = .ok warnersTable := by rfl
  have hok : (tree warnersTable 3 outputTree .empty none none (.start .empty)).2.isOk = true := by
    decide +kernel
  have hq : ∀ f, (tree warnersTable 3 outputTree .empty none none (.start .empty)).2 ≠
      .error (.callback f) := by
    intro f hf
    rw [hf] at hok
    cases hok
  have hn : (warners.map (·.name)).Nodup := by decide
  have hs : [warner "outputs" "Output"].Subperm warners :=
    (List.sublist_cons_self _ _).subperm
  obtain ⟨t, h, hshare⟩ := share_eq_of_subperm .standard warners [warner "outputs" "Output"] hn hs
    warnersTable ht 3 outputTree .empty none none (.start .empty) hq
  exact ⟨ht, hq, t, h, ((hshare (.start .empty)).2 _ List.mem_cons_self).1⟩

end Lint

end TemplateLint
