import TemplateLint.Proofs.Walk.Effects
import TemplateLint.Walk

/-!
The trace of a walk: which callbacks are called for which visits, and what they leave behind.

The trace is computed from the tree, the rule table and the view of the document alone. Main
statement: a walk adds the effects of its trace to the run (`follow_eq`). Where no callback fails,
the effects are those of all calls, one call after the other (`trace_of_quiet`).
-/

namespace TemplateLint.Walk

/-- A callback that is called, and the visit for which it is called. -/
structure Call where
  registration : Registration
  visit : Visit

namespace Call

def rule (c : Call) : String := c.registration.rule

def key (c : Call) : String := c.registration.key

/-- What is done in the call, up to a failure. -/
def outcome (w : View) (c : Call) : List Effect × Option Failure :=
  effectsOf w c.rule c.key (c.registration.callback (some w) c.visit)

def effects (w : View) (c : Call) : List Effect := (c.outcome w).1

/-- How the call fails. -/
def fault? (w : View) (c : Call) : Option CallbackFault :=
  (c.outcome w).2.map fun f =>
    ⟨c.rule, c.registration.category, c.registration.phase, c.visit.node.line, f⟩

lemma rule_of_mem_effects {w : View} {c : Call} {e : Effect} (h : e ∈ c.effects w) :
    e.rule = c.rule :=
  rule_of_mem_effectsOf h

end Call

def callsFor (t : RuleTable) (v : Visit) (phase : Phase) : List Call :=
  (t.callbacksOf v.node.kind phase).map (⟨·, v⟩)

/-- The calls of a walk through moments, up to one that ends the walk, as long as none fails. -/
def calls (t : RuleTable) : List Moment → List Call
  | .visit v phase :: ms => callsFor t v phase ++ calls t ms
  | _ => []

/-- The effects of calls up to the first one that fails, and its fault. -/
def effectsOfCalls (w : View) : List Call → List Effect × Option CallbackFault
  | [] => ([], none)
  | c :: cs =>
    match c.fault? w with
    | none => (c.effects w ++ (effectsOfCalls w cs).1, (effectsOfCalls w cs).2)
    | some f => (c.effects w, some f)

def countVisit (visited : Nat) : Phase → Nat
  | .enter => visited + 1
  | .exit => visited

/-- What a walk leaves behind, how many nodes it enters, and what ends it early. -/
structure Trace where
  effects : List Effect
  visited : Nat
  fault : Option Fault

/-- The trace of a walk in a document that looks like `w`. -/
def trace (w : View) (t : RuleTable) : List Moment → Nat → Trace
  | [], n => ⟨[], n, none⟩
  | .tooDeep :: _, n => ⟨[], n, some (.tooDeep n)⟩
  | .unset kind :: _, n => ⟨[], n, some (.unset kind)⟩
  | .visit v phase :: ms, n =>
    match effectsOfCalls w (callsFor t v phase) with
    | (es, none) =>
      let rest := trace w t ms (countVisit n phase)
      { rest with effects := es ++ rest.effects }
    | (es, some f) => ⟨es, countVisit n phase, some (.callback f)⟩

def Moment.isVisit : Moment → Bool
  | .visit _ _ => true
  | _ => false

/-- How a walk ends of its own, without the failure of a callback. -/
def ending : List Moment → Nat → Nat × Option Fault
  | [], n => (n, none)
  | .tooDeep :: _, n => (n, some (.tooDeep n))
  | .unset kind :: _, n => (n, some (.unset kind))
  | .visit _ phase :: ms, n => ending ms (countVisit n phase)

variable {w : View} {t : RuleTable}

lemma mem_registrations_of_mem_calls {ms : List Moment} {c : Call} (h : c ∈ calls t ms) :
    c.registration ∈ t.registrations := by
  induction ms with
  | nil => cases h
  | cons m ms ih =>
    cases m with
    | tooDeep => cases h
    | unset kind => cases h
    | visit v phase =>
      rcases List.mem_append.1 h with h | h
      · obtain ⟨x, hx, rfl⟩ := List.mem_map.1 h
        obtain ⟨category, -, hx⟩ := List.mem_flatMap.1 hx
        exact (List.mem_filter.1 hx).1
      · exact ih h

/-! ### The run follows the trace -/

lemma callAll_eq {run : Run} (hw : run.session.view? = some w) (v : Visit)
    (rs : List Registration) :
    callAll v rs run =
      (run.addAll (effectsOfCalls w (rs.map (⟨·, v⟩))).1,
        (effectsOfCalls w (rs.map (⟨·, v⟩))).2) := by
  induction rs generalizing run with
  | nil => rfl
  | cons r rs ih =>
    simp only [callAll, hw, Run.performAll_eq hw, List.map_cons, effectsOfCalls, Call.fault?,
      Call.outcome, Call.rule, Call.key, Call.effects]
    rcases h : effectsOf w r.rule r.key (r.callback (some w) v) with ⟨es, _ | f⟩
    · have hv : (run.addAll es).session.view? = some w := (Run.view?_addAll run es).trans hw
      simp only [ih hv, Option.map_none, Run.addAll_append]
    · rfl

/-- A walk adds the effects of its trace to the run, and ends as the trace does. -/
theorem follow_eq {run : Run} (hw : run.session.view? = some w) (ms : List Moment) (n : Nat) :
    follow t ms n run =
      ⟨run.addAll (trace w t ms n).effects, (trace w t ms n).visited, (trace w t ms n).fault⟩ := by
  induction ms generalizing run n with
  | nil => rfl
  | cons m ms ih =>
    cases m with
    | tooDeep => rfl
    | unset kind => rfl
    | visit v phase =>
      have hc := callAll_eq hw v (t.callbacksOf v.node.kind phase)
      simp only [follow, trace, callsFor, hc]
      rcases effectsOfCalls w ((t.callbacksOf v.node.kind phase).map (⟨·, v⟩)) with ⟨es, _ | f⟩
      · have hv : (run.addAll es).session.view? = some w := (Run.view?_addAll run es).trans hw
        cases phase <;> simp only [ih hv, countVisit, Run.addAll_append]
      · cases phase <;> rfl

/-! ### Walks in which no callback fails -/

lemma effectsOfCalls_of_quiet {cs : List Call} (h : ∀ c ∈ cs, c.fault? w = none) :
    effectsOfCalls w cs = (cs.flatMap (·.effects w), none) := by
  induction cs with
  | nil => rfl
  | cons c cs ih =>
    have hc := h c List.mem_cons_self
    have hcs := ih fun d hd => h d (List.mem_cons_of_mem c hd)
    simp [effectsOfCalls, hc, hcs]

lemma quiet_of_effectsOfCalls {cs : List Call} (h : (effectsOfCalls w cs).2 = none) :
    ∀ c ∈ cs, c.fault? w = none := by
  induction cs with
  | nil => simp
  | cons c cs ih =>
    simp only [effectsOfCalls] at h
    split at h
    · next hc =>
      intro d hd
      rcases List.mem_cons.1 hd with rfl | hd
      · exact hc
      · exact ih h d hd
    · cases h

theorem trace_of_quiet {ms : List Moment} (h : ∀ c ∈ calls t ms, c.fault? w = none) (n : Nat) :
    trace w t ms n =
      ⟨(calls t ms).flatMap (·.effects w), (ending ms n).1, (ending ms n).2⟩ := by
  induction ms generalizing n with
  | nil => rfl
  | cons m ms ih =>
    cases m with
    | tooDeep => rfl
    | unset kind => rfl
    | visit v phase =>
      simp only [calls, List.mem_append] at h
      have hv := effectsOfCalls_of_quiet fun c hc => h c (.inl hc)
      have hms := ih (fun c hc => h c (.inr hc)) (countVisit n phase)
      simp only [trace, hv, hms, calls, ending, List.flatMap_append]

/-- A walk that is not ended by a callback has made all its calls, and none has failed. -/
theorem quiet_of_trace {ms : List Moment} {n : Nat}
    (h : ∀ f, (trace w t ms n).fault ≠ some (.callback f)) :
    ∀ c ∈ calls t ms, c.fault? w = none := by
  induction ms generalizing n with
  | nil => simp [calls]
  | cons m ms ih =>
    cases m with
    | tooDeep => simp [calls]
    | unset kind => simp [calls]
    | visit v phase =>
      rcases he : effectsOfCalls w (callsFor t v phase) with ⟨es, _ | f⟩
      · simp only [trace, he] at h
        have hv := quiet_of_effectsOfCalls (by rw [he])
        intro c hc
        rcases List.mem_append.1 hc with hc | hc
        · exact hv c hc
        · exact ih h c hc
      · exact absurd (by simp only [trace, he]) (h f)

lemma filter_effects_rule (name : String) (cs : List Call) :
    (cs.flatMap (·.effects w)).filter (·.rule = name) =
      (cs.filter (·.rule = name)).flatMap (·.effects w) := by
  induction cs with
  | nil => rfl
  | cons c cs ih =>
    have hc : ∀ e ∈ c.effects w, e.rule = c.rule := fun e he => Call.rule_of_mem_effects he
    rw [List.flatMap_cons, List.filter_append, ih, List.filter_cons]
    by_cases h : c.rule = name
    · have hall : (c.effects w).filter (·.rule = name) = c.effects w :=
        List.filter_eq_self.2 fun e he => by simp [hc e he, h]
      simp [h, hall]
    · have hnone : (c.effects w).filter (·.rule = name) = [] :=
        List.filter_eq_nil_iff.2 fun e he => by simp [hc e he, h]
      simp [h, hnone]

end TemplateLint.Walk
