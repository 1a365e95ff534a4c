import Mathlib.Tactic.Common
import TemplateLint.Rule.Basic

/-!
What acts leave behind, apart from the run that they are performed in.

A rule sees of a run only the view of the innermost open document, and no act changes that view.
So what an act records or notes is a function of the view, and a run after some acts is the run
before them with their effects added. Main statement: `performAll_eq`.
-/

namespace TemplateLint

/-- What an act that succeeds leaves behind. -/
inductive Effect where
  | recorded (e : Diagnostic)
  | noted (e : Event)

namespace Effect

/-- The name of the rule that the effect comes from. -/
def rule : Effect → String
  | recorded e => e.rule
  | noted e => e.rule

def diagnostic? : Effect → Option Diagnostic
  | recorded e => some e
  | noted _ => none

def event? : Effect → Option Event
  | recorded _ => none
  | noted e => some e

end Effect

/-- The diagnostics among effects, in order. -/
def diagnosticsOf (es : List Effect) : List Diagnostic := es.filterMap Effect.diagnostic?

/-- The events among effects, in order. -/
def eventsOf (es : List Effect) : List Event := es.filterMap Effect.event?

@[simp] lemma Effect.rule_recorded (e : Diagnostic) : (recorded e).rule = e.rule := rfl
@[simp] lemma Effect.rule_noted (e : Event) : (noted e).rule = e.rule := rfl
@[simp] lemma diagnosticsOf_nil : diagnosticsOf [] = [] := rfl
@[simp] lemma diagnosticsOf_recorded (e : Diagnostic) (es : List Effect) :
    diagnosticsOf (.recorded e :: es) = e :: diagnosticsOf es := rfl
@[simp] lemma diagnosticsOf_noted (e : Event) (es : List Effect) :
    diagnosticsOf (.noted e :: es) = diagnosticsOf es := rfl
@[simp] lemma eventsOf_nil : eventsOf [] = [] := rfl
@[simp] lemma eventsOf_recorded (e : Diagnostic) (es : List Effect) :
    eventsOf (.recorded e :: es) = eventsOf es := rfl
@[simp] lemma eventsOf_noted (e : Event) (es : List Effect) :
    eventsOf (.noted e :: es) = e :: eventsOf es := rfl

/-- What an act of a rule does while the innermost open document looks like `w`. -/
def Act.effect (w : View) (rule key : String) : Act → Except Failure Effect
  | .record severity message line =>
    let e := Document.diagnostic { toView := w } rule severity (message.getD "") line
    match Document.flaws e.line message with
    | [] => .ok (.recorded e)
    | fields => .error (.invalid fields)
  | .note o => .ok (.noted ⟨rule, key, o⟩)
  | .fail f => .error f

/-- The effects of acts up to the first one that fails, and its failure. -/
def effectsOf (w : View) (rule key : String) : List Act → List Effect × Option Failure
  | [] => ([], none)
  | a :: as =>
    match a.effect w rule key with
    | .ok e => (e :: (effectsOf w rule key as).1, (effectsOf w rule key as).2)
    | .error f => ([], some f)

@[simp] lemma diagnostic_severity (d : Document) (rule : String) (severity : Severity)
    (message : String) (line : Option Int) :
    (d.diagnostic rule severity message line).severity = severity := by
  unfold Document.diagnostic
  split <;> rfl

@[simp] lemma diagnostic_rule (d : Document) (rule : String) (severity : Severity)
    (message : String) (line : Option Int) :
    (d.diagnostic rule severity message line).rule = rule := by
  unfold Document.diagnostic
  split <;> rfl

lemma effect_rule {w : View} {rule key : String} {a : Act} {e : Effect}
    (h : a.effect w rule key = .ok e) : e.rule = rule := by
  cases a with
  | record severity message line =>
    simp only [Act.effect] at h
    split at h
    · cases h
      exact diagnostic_rule ..
    · cases h
  | note o => cases h; rfl
  | fail f => cases h

lemma rule_of_mem_effectsOf {w : View} {rule key : String} {as : List Act} {e : Effect}
    (h : e ∈ (effectsOf w rule key as).1) : e.rule = rule := by
  induction as with
  | nil => simp [effectsOf] at h
  | cons a as ih =>
    simp only [effectsOf] at h
    split at h
    · next e' he =>
      rcases List.mem_cons.1 h with rfl | h
      · exact effect_rule he
      · exact ih h
    · simp at h

/-! ### Documents and sessions -/

namespace Document

/-- The document with more diagnostics, each in the buffer of its severity. -/
def addAll (d : Document) (es : List Diagnostic) : Document := es.foldl add d

@[simp] lemma toView_add (d : Document) (e : Diagnostic) : (d.add e).toView = d.toView := by
  unfold add
  split <;> rfl

@[simp] lemma toView_addAll (d : Document) (es : List Diagnostic) :
    (d.addAll es).toView = d.toView := by
  induction es generalizing d with
  | nil => rfl
  | cons e es ih => exact (ih (d.add e)).trans (toView_add d e)

lemma buffer_addAll (d : Document) (es : List Diagnostic) (s : Severity) :
    (d.addAll es).buffer s = d.buffer s ++ es.filter fun e => e.severity = s := by
  induction es generalizing d with
  | nil => simp [addAll]
  | cons e es ih =>
    have h : (d.addAll (e :: es)).buffer s = ((d.add e).addAll es).buffer s := rfl
    rw [h, ih, buffer_add]
    by_cases hs : e.severity = s <;> simp [hs]

end Document

namespace Session

/-- The session with a diagnostic more in its innermost open document. -/
def addHere (s : Session) (e : Diagnostic) : Session :=
  match s.opened with
  | i :: _ => s.modifyAt i (·.add e)
  | [] => s

@[simp] lemma opened_addHere (s : Session) (e : Diagnostic) : (s.addHere e).opened = s.opened := by
  unfold addHere
  split <;> rfl

@[simp] lemma view?_addHere (s : Session) (e : Diagnostic) : (s.addHere e).view? = s.view? := by
  unfold addHere
  split
  · next i is h =>
    simp only [view?, document?, modifyAt, h, List.head?_cons, Option.bind_some,
      List.getElem?_modify_eq]
    cases s.documents[i]? with
    | none => rfl
    | some d => exact congrArg some (d.toView_add e)
  · rfl

/-- Recording depends on the view of the innermost document alone. -/
lemma record_eq {s : Session} {w : View} (hw : s.view? = some w) (rule : String)
    (severity : Severity) (message : Option String) (line : Option Int) :
    let e := Document.diagnostic { toView := w } rule severity (message.getD "") line
    s.record rule severity message line =
      match Document.flaws e.line message with
      | [] => .ok (e, s.addHere e)
      | fields => .error (.invalid fields) := by
  obtain ⟨d, hd, rfl⟩ := Option.map_eq_some_iff.1 hw
  obtain ⟨i, hi, -⟩ := Option.bind_eq_some_iff.1 hd
  obtain ⟨is, ho⟩ : ∃ is, s.opened = i :: is := by
    cases h : s.opened with
    | nil => simp [h] at hi
    | cons j js => exact ⟨js, by simpa [h] using hi⟩
  intro e
  simp only [record, addHere, ho, hd]
  rfl

end Session

/-! ### Runs -/

namespace Run

/-- The run with an effect more. -/
def add (r : Run) : Effect → Run
  | .recorded e => { r with session := r.session.addHere e, log := r.log ++ [recorded e.rule e] }
  | .noted e => { r with events := r.events ++ [e] }

def addAll (r : Run) (es : List Effect) : Run := es.foldl add r

@[simp] lemma addAll_nil (r : Run) : r.addAll [] = r := rfl

@[simp] lemma addAll_cons (r : Run) (e : Effect) (es : List Effect) :
    r.addAll (e :: es) = (r.add e).addAll es := rfl

lemma addAll_append (r : Run) (es fs : List Effect) :
    r.addAll (es ++ fs) = (r.addAll es).addAll fs := List.foldl_append

@[simp] lemma view?_add (r : Run) (e : Effect) : (r.add e).session.view? = r.session.view? := by
  cases e with
  | recorded e => exact Session.view?_addHere r.session e
  | noted e => rfl

@[simp] lemma view?_addAll (r : Run) (es : List Effect) :
    (r.addAll es).session.view? = r.session.view? := by
  induction es generalizing r with
  | nil => rfl
  | cons e es ih => exact (ih (r.add e)).trans (view?_add r e)

@[simp] lemma opened_add (r : Run) (e : Effect) :
    (r.add e).session.opened = r.session.opened := by
  cases e with
  | recorded e => exact Session.opened_addHere r.session e
  | noted e => rfl

@[simp] lemma opened_addAll (r : Run) (es : List Effect) :
    (r.addAll es).session.opened = r.session.opened := by
  induction es generalizing r with
  | nil => rfl
  | cons e es ih => exact (ih (r.add e)).trans (opened_add r e)

lemma perform_eq {r : Run} {w : View} (hw : r.session.view? = some w) (rule key : String)
    (a : Act) : r.perform rule key a = (a.effect w rule key).map r.add := by
  cases a with
  | record severity message line =>
    simp only [perform, Act.effect, Session.record_eq hw]
    split
    · simp [Except.map, add]
    · rfl
  | note o => rfl
  | fail f => rfl

/-- Performing acts adds their effects. -/
theorem performAll_eq {r : Run} {w : View} (hw : r.session.view? = some w) (rule key : String)
    (as : List Act) :
    r.performAll rule key as =
      (r.addAll (effectsOf w rule key as).1, (effectsOf w rule key as).2) := by
  induction as generalizing r with
  | nil => rfl
  | cons a as ih =>
    simp only [performAll, perform_eq hw, effectsOf]
    cases a.effect w rule key with
    | ok e => exact ih ((view?_add r e).trans hw)
    | error f => rfl

end Run

end TemplateLint
