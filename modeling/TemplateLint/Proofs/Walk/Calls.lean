import TemplateLint.Proofs.Complete.Tree
import TemplateLint.Proofs.Walk.Document

/-!
The callbacks that a walk calls.

A walk makes its calls one after the other, up to the first one that fails, and whatever it leaves
behind comes from them (`effects_trace`). If none of these calls fails then the walk makes all of
them, and in a complete tree only its depth can end it early (`Quiet.tooDeep_of_mem`).
-/

namespace TemplateLint

namespace Walk

/-- What a callback is called for: its rule, the key that it is registered for, and the node. -/
structure Occasion where
  rule : String
  key : String
  node : Node

def Call.occasion (c : Call) : Occasion := ⟨c.rule, c.key, c.visit.node⟩

variable {w : View} {t : RuleTable}

/-- The calls that are made if a failing one is the last. -/
def upToFault (w : View) : List Call → List Call
  | [] => []
  | c :: cs =>
    match c.fault? w with
    | none => c :: upToFault w cs
    | some _ => [c]

lemma upToFault_of_quiet {cs : List Call} (h : ∀ c ∈ cs, c.fault? w = none) :
    upToFault w cs = cs := by
  induction cs with
  | nil => rfl
  | cons c cs ih =>
    obtain ⟨hc, hcs⟩ := List.forall_mem_cons.1 h
    rw [upToFault, hc, ih hcs]

/-- The effects of calls are those of the calls that are made. -/
lemma effects_effectsOfCalls (cs : List Call) :
    (effectsOfCalls w cs).1 = (upToFault w cs).flatMap (·.effects w) := by
  induction cs with
  | nil => rfl
  | cons c cs ih =>
    rw [effectsOfCalls, upToFault]
    cases c.fault? w with
    | none => rw [ih, List.flatMap_cons]
    | some f => simp

lemma upToFault_append {cs : List Call} (cs' : List Call) :
    upToFault w (cs ++ cs') =
      match (effectsOfCalls w cs).2 with
      | none => cs ++ upToFault w cs'
      | some _ => upToFault w cs := by
  induction cs with
  | nil => rfl
  | cons c cs ih =>
    rw [List.cons_append, upToFault, upToFault, effectsOfCalls]
    cases c.fault? w with
    | none =>
      rw [ih]
      cases (effectsOfCalls w cs).2 <;> rfl
    | some f => rfl

/-- **What a walk leaves behind comes from the calls that it makes.** -/
theorem effects_trace (ms : List Moment) (n : Nat) :
    (trace w t ms n).effects = (upToFault w (calls t ms)).flatMap (·.effects w) := by
  induction ms generalizing n with
  | nil => rfl
  | cons m ms ih =>
    cases m with
    | tooDeep => rfl
    | unset kind => rfl
    | visit v phase =>
      have hv := effects_effectsOfCalls (w := w) (callsFor t v phase)
      rw [trace, calls, upToFault_append]
      rcases he : effectsOfCalls w (callsFor t v phase) with ⟨es, _ | f⟩ <;> rw [he] at hv
      · have hquiet := upToFault_of_quiet (quiet_of_effectsOfCalls (by rw [he]))
        rw [hquiet] at hv
        rw [List.flatMap_append, ← hv, ← ih]
      · exact hv

/-! ### Walks that end of their own -/

/-- A walk that comes to a moment without a visit is ended there, or before. -/
lemma ending_of_not_isVisit {ms : List Moment} (h : ∃ m ∈ ms, m.isVisit = false) (n : Nat) :
    (∃ visited, (ending ms n).2 = some (.tooDeep visited)) ∨
      ∃ kind, .unset kind ∈ ms ∧ (ending ms n).2 = some (.unset kind) := by
  induction ms generalizing n with
  | nil => simp at h
  | cons m ms ih =>
    cases m with
    | tooDeep => exact .inl ⟨n, rfl⟩
    | unset kind => exact .inr ⟨kind, List.mem_cons_self, rfl⟩
    | visit v phase =>
      have hms : ∃ m ∈ ms, m.isVisit = false := by simpa [Moment.isVisit] using h
      exact (ih hms _).imp_right fun ⟨kind, hmem, hend⟩ =>
        ⟨kind, List.mem_cons_of_mem _ hmem, hend⟩

lemma ending_ne_callback (ms : List Moment) (n : Nat) {f : CallbackFault} :
    (ending ms n).2 ≠ some (.callback f) := by
  induction ms generalizing n with
  | nil => simp [ending]
  | cons m ms ih =>
    cases m with
    | tooDeep => simp [ending]
    | unset kind => simp [ending]
    | visit v phase => exact ih _

lemma ending_of_tooDeep {ms : List Moment} (h : .tooDeep ∈ ms) (hset : ∀ kind, .unset kind ∉ ms)
    (n : Nat) : ∃ visited, (ending ms n).2 = some (.tooDeep visited) :=
  (ending_of_not_isVisit ⟨_, h, rfl⟩ n).resolve_right fun ⟨kind, hmem, _⟩ => hset kind hmem

end Walk

namespace Lint

open Walk

/-- The calls that are made when a tree is linted in a document that looks like `w`. -/
def callsOf (t : RuleTable) (levels : Nat) (w : View) (root : Node) : List Call :=
  upToFault w (calls t (moments levels ⟨root, []⟩))

/-- What callbacks are called for when a tree is linted, in order. -/
def occasions (t : RuleTable) (levels : Nat) (w : View) (root : Node) : List Occasion :=
  (callsOf t levels w root).map Call.occasion

/-- A tree is too deep to be linted to the end. -/
def TooDeep (t : RuleTable) (levels : Nat) (w : View) (root : Node) : Prop :=
  ∃ visited, outcomeOf t levels w root = .error (.tooDeep visited)

/-- No callback fails when a tree is linted in a document that looks like `w`. -/
def Quiet (t : RuleTable) (levels : Nat) (w : View) (root : Node) : Prop :=
  ∀ f, outcomeOf t levels w root ≠ .error (.callback f)

variable {t : RuleTable} {levels : Nat} {w : View} {root : Node}

/-- What linting a tree notes is what its calls note. -/
theorem tree_events_eq_calls (t : RuleTable) (levels : Nat) (root : Node) (index : SourceIndex)
    (filename app : Option String) (run : Run) :
    (tree t levels root index filename app run).1.events = run.events ++
      eventsOf ((callsOf t levels (viewOf root index filename app) root).flatMap
        (·.effects (viewOf root index filename app))) := by
  rw [tree_events, traceOf, effects_trace]
  rfl

lemma Quiet.calls (h : Quiet t levels w root) :
    ∀ c ∈ Walk.calls t (moments levels ⟨root, []⟩), c.fault? w = none := by
  refine quiet_of_trace (n := 0) fun f hf => h f ?_
  have htrace : (traceOf t levels w root).fault = some (.callback f) := hf
  rw [outcomeOf, htrace]

lemma quiet_of_calls (h : ∀ c ∈ calls t (moments levels ⟨root, []⟩), c.fault? w = none) :
    Quiet t levels w root := by
  intro f hf
  rw [outcomeOf, traceOf, trace_of_quiet h] at hf
  split at hf
  · next g hg =>
    cases hf
    exact ending_ne_callback _ _ hg
  · cases hf

/-- If no callback fails, then all calls are made. -/
lemma Quiet.callsOf_eq (h : Quiet t levels w root) :
    callsOf t levels w root = Walk.calls t (moments levels ⟨root, []⟩) :=
  upToFault_of_quiet h.calls

/-- If no callback fails, a complete tree that goes too deep is too deep for linting. -/
lemma Quiet.tooDeep_of_mem (h : Quiet t levels w root) (hroot : root.Complete)
    (hdeep : .tooDeep ∈ moments levels ⟨root, []⟩) : TooDeep t levels w root := by
  obtain ⟨visited, hend⟩ := ending_of_tooDeep hdeep
    (fun kind => unset_not_mem_moments (v := ⟨root, []⟩) hroot levels kind) 0
  refine ⟨visited, ?_⟩
  have htrace : (traceOf t levels w root).fault = some (.tooDeep visited) := by
    rw [traceOf, trace_of_quiet h.calls, hend]
  rw [outcomeOf, htrace]

end Lint

end TemplateLint
