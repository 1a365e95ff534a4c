import Mathlib
import TemplateLint.Proofs.Rule.Separation

/-!
What becomes of the diagnostics of a session.

Documents are opened inside of one another and left again, and what is recorded is drained at any
time. A diagnostic goes to the document that is the innermost open one just then, under its own
severity, and from there into one report: reports and buffer together are what was recorded, in
order. Main statement: `entries_eq_recorded`.
-/

namespace TemplateLint.Session

open Lint (entries)

/-! ### Steps -/

inductive Step where
  /-- A new document, in which nothing is recorded yet. -/
  | add (v : View)
  | enter (i : Nat)
  /-- The innermost document is left, normally or by a failure that goes on behind it. -/
  | leave (failure : Option Failure)
  | record (rule : String) (severity : Severity) (message : Option String) (line : Option Int)
  | drain (i : Nat)

inductive Answer where
  | done
  | recorded (e : Diagnostic)
  | drained (r : Report)
  | failed (f : Failure)

/-- The session after a step, and what the step answers. -/
def take (s : Session) : Step → Session × Answer
  | .add v => ((s.add { toView := v }).1, .done)
  | .enter i => (s.enter i, .done)
  | .leave none => (s.leave, .done)
  | .leave (some f) => (s.leave, .failed f)
  | .record rule severity message line =>
    match s.record rule severity message line with
    | .ok (e, s) => (s, .recorded e)
    | .error f => (s, .failed f)
  | .drain i =>
    match s.drain i with
    | (some r, s) => (s, .drained r)
    | (none, s) => (s, .done)

/-- The session after steps. -/
def after (s : Session) (xs : List Step) : Session := xs.foldl (fun s x => (s.take x).1) s

/-- A step that has been taken. -/
structure Entry where
  /-- The innermost document that was open before it. -/
  here : Option Nat
  step : Step
  answer : Answer

def history : Session → List Step → List Entry
  | _, [] => []
  | s, x :: xs => ⟨s.opened.head?, x, (s.take x).2⟩ :: history (s.take x).1 xs

def Entry.report? (i : Nat) (e : Entry) : Option Report :=
  match e.step, e.answer with
  | .drain j, .drained r => if j = i then some r else none
  | _, _ => none

/-- What the step records with a severity, if a document is the innermost open one. -/
def Entry.diagnostic? (i : Nat) (severity : Severity) (e : Entry) : Option Diagnostic :=
  match e.step, e.answer with
  | .record _ severity' _ _, .recorded d =>
    if e.here = some i ∧ severity' = severity then some d else none
  | _, _ => none

def reportsOf (i : Nat) (es : List Entry) : List Report := es.filterMap (Entry.report? i)

/-- What was recorded with a severity while a document was the innermost open one. -/
def recordedIn (i : Nat) (severity : Severity) (es : List Entry) : List Diagnostic :=
  es.filterMap (Entry.diagnostic? i severity)

def bufferOf (s : Session) (i : Nat) (severity : Severity) : List Diagnostic :=
  ((s.documents[i]?).map (·.buffer severity)).getD []

variable (s : Session)

@[simp] lemma after_nil : s.after [] = s := rfl

@[simp] lemma after_cons (x : Step) (xs : List Step) : s.after (x :: xs) = (s.take x).1.after xs :=
  rfl

lemma after_append (xs ys : List Step) : s.after (xs ++ ys) = (s.after xs).after ys :=
  List.foldl_append

lemma reportsOf_cons (i : Nat) (e : Entry) (es : List Entry) :
    reportsOf i (e :: es) = (e.report? i).toList ++ reportsOf i es := by
  rw [reportsOf, List.filterMap_cons]
  cases e.report? i <;> rfl

lemma recordedIn_cons (i : Nat) (severity : Severity) (e : Entry) (es : List Entry) :
    recordedIn i severity (e :: es) =
      (e.diagnostic? i severity).toList ++ recordedIn i severity es := by
  rw [recordedIn, List.filterMap_cons]
  cases e.diagnostic? i severity <;> rfl

lemma history_append (xs ys : List Step) :
    s.history (xs ++ ys) = s.history xs ++ (s.after xs).history ys := by
  induction xs generalizing s with
  | nil => rfl
  | cons x xs ih => rw [List.cons_append, history, history, ih, after_cons, List.cons_append]

/-! ### One step -/

lemma bufferOf_add (v : View) (i : Nat) (severity : Severity) :
    (s.add { toView := v }).1.bufferOf i severity = s.bufferOf i severity := by
  simp only [bufferOf, add]
  rcases lt_trichotomy i s.documents.length with h | rfl | h
  · rw [List.getElem?_append_left h]
  · cases severity <;> simp [Document.buffer]
  · rw [List.getElem?_eq_none (by simpa using h), List.getElem?_eq_none h.le]

lemma bufferOf_modifyAt_of_ne {i j : Nat} (h : j ≠ i) (f : Document → Document)
    (severity : Severity) : (s.modifyAt j f).bufferOf i severity = s.bufferOf i severity := by
  rw [bufferOf, modifyAt, List.getElem?_modify_ne _ _ h, bufferOf]

lemma record_cases (rule : String) (severity : Severity) (message : Option String)
    (line : Option Int) :
    (∃ f, s.record rule severity message line = .error f) ∨
      ∃ i d e, s.opened.head? = some i ∧ s.documents[i]? = some d ∧ e.severity = severity ∧
        s.record rule severity message line = .ok (e, s.modifyAt i (·.add e)) := by
  unfold record
  split
  · next i is d ho hd =>
    have hi : s.documents[i]? = some d := by simpa [document?, ho] using hd
    dsimp only
    split
    · exact .inr ⟨i, d, _, by rw [ho]; rfl, hi, diagnostic_severity .., rfl⟩
    · exact .inl ⟨_, rfl⟩
  · exact .inl ⟨_, rfl⟩

lemma entries_report (d : Document) (severity : Severity) :
    entries d.report severity = d.buffer severity := by
  cases severity <;> rfl

/-- **A step loses nothing**: what a document's buffer held before it, and what the step records
there, is in the report that the step gives and in the buffer after it. -/
lemma bufferOf_take (x : Step) (i : Nat) (severity : Severity) :
    let e : Entry := ⟨s.opened.head?, x, (s.take x).2⟩
    (e.report? i).toList.flatMap (entries · severity) ++ (s.take x).1.bufferOf i severity =
      s.bufferOf i severity ++ (e.diagnostic? i severity).toList := by
  cases x with
  | add v =>
    have hbuffer := bufferOf_add s v i severity
    simpa [take, Entry.report?, Entry.diagnostic?] using hbuffer
  | enter j => simp [take, Entry.report?, Entry.diagnostic?, bufferOf, enter]
  | leave failure =>
    cases failure <;> simp [take, Entry.report?, Entry.diagnostic?, bufferOf, leave]
  | record rule severity' message line =>
    rcases record_cases s rule severity' message line with ⟨f, hf⟩ | ⟨j, d, e, hj, hd, he, hr⟩
    · simp [take, Entry.report?, Entry.diagnostic?, hf]
    · simp only [take, hr, Entry.report?, Entry.diagnostic?, hj, Option.toList_none,
        List.flatMap_nil, List.nil_append]
      by_cases hji : j = i
      · subst hji
        have hbuffer : (s.modifyAt j (·.add e)).bufferOf j severity =
            s.bufferOf j severity ++ if severity' = severity then [e] else [] := by
          simp [bufferOf, modifyAt, hd, he]
        rw [hbuffer]
        by_cases hs : severity' = severity <;> simp [hs]
      · simp [bufferOf_modifyAt_of_ne s hji, hji]
  | drain j =>
    cases hd : s.documents[j]? with
    | none =>
      have hsame : s.modifyAt j Document.drained = s := by
        rw [modifyAt, List.modify_eq_self (List.getElem?_eq_none_iff.1 hd)]
      simp [take, drain, hd, Entry.report?, Entry.diagnostic?, hsame]
    | some d =>
      simp only [take, drain, hd, Entry.report?, Entry.diagnostic?, Option.map_some,
        Option.toList_none, List.append_nil]
      by_cases hji : j = i
      · subst hji
        have hbuffer : (s.modifyAt j Document.drained).bufferOf j severity = [] := by
          simp [bufferOf, modifyAt, hd]
        rw [hbuffer]
        simp [bufferOf, hd, entries_report]
      · simp [bufferOf_modifyAt_of_ne s hji, hji]

/-! ### Any number of steps -/

/-- **Steps lose nothing**: the reports of a document and its buffer go on from what the buffer held
before. -/
theorem bufferOf_after (xs : List Step) (i : Nat) (severity : Severity) :
    (reportsOf i (s.history xs)).flatMap (entries · severity) ++
        (s.after xs).bufferOf i severity =
      s.bufferOf i severity ++ recordedIn i severity (s.history xs) := by
  induction xs generalizing s with
  | nil => simp [history, reportsOf, recordedIn]
  | cons x xs ih =>
    set e : Entry := ⟨s.opened.head?, x, (s.take x).2⟩ with he
    have hstep := bufferOf_take s x i severity
    rw [← he] at hstep
    calc (reportsOf i (s.history (x :: xs))).flatMap (entries · severity) ++
          (s.after (x :: xs)).bufferOf i severity
      _ = (e.report? i).toList.flatMap (entries · severity) ++
          ((reportsOf i ((s.take x).1.history xs)).flatMap (entries · severity) ++
            ((s.take x).1.after xs).bufferOf i severity) := by
          rw [history, reportsOf_cons, List.flatMap_append, List.append_assoc, after_cons]
      _ = (e.report? i).toList.flatMap (entries · severity) ++ (s.take x).1.bufferOf i severity ++
          recordedIn i severity ((s.take x).1.history xs) := by
          rw [ih, List.append_assoc]
      _ = s.bufferOf i severity ++ recordedIn i severity (s.history (x :: xs)) := by
          rw [hstep, List.append_assoc, history, recordedIn_cons]

/-! ### Documents inside of one another -/

def Step.isPlain : Step → Bool
  | .enter _ | .leave _ => false
  | _ => true

/-- Steps that leave every document that they enter, and no other. -/
inductive Nested : List Step → Prop
  | nil : Nested []
  | plain {x : Step} {xs : List Step} (hx : x.isPlain) (h : Nested xs) : Nested (x :: xs)
  | inside {i : Nat} {f : Option Failure} {xs ys : List Step} (h : Nested xs) (h' : Nested ys) :
    Nested (.enter i :: (xs ++ .leave f :: ys))

lemma opened_take_of_isPlain {x : Step} (h : x.isPlain) : (s.take x).1.opened = s.opened := by
  cases x with
  | add v => rfl
  | enter i => cases h
  | leave f => cases h
  | record rule severity message line =>
    rcases record_cases s rule severity message line with ⟨f, hf⟩ | ⟨j, d, e, -, -, -, hr⟩
    · simp [take, hf]
    · simp [take, hr, modifyAt]
  | drain i =>
    simp only [take, drain]
    cases s.documents[i]? <;> rfl

lemma opened_take_leave (f : Option Failure) : (s.take (.leave f)).1.opened = s.opened.tail := by
  cases f <;> rfl

/-- The same documents are open before and after nested steps. -/
lemma opened_after_of_nested {xs : List Step} (h : Nested xs) :
    (s.after xs).opened = s.opened := by
  induction h generalizing s with
  | nil => rfl
  | plain hx _ ih => rw [after_cons, ih, opened_take_of_isPlain s hx]
  | @inside i f xs ys _ _ ih ih' =>
    rw [after_cons, after_append, after_cons, ih', opened_take_leave, ih]
    rfl

/-- **No diagnostic is lost, doubled or put in the wrong place.** Whatever steps are taken in a new
session: of every document and severity, the reports and the buffer hold what was recorded while
the document was the innermost open one, in order. Later steps add reports and change none. A
document that is entered is the innermost one until it is left, and then the documents that were
open before are open again: the one before it is the innermost one, or there is none. -/
theorem entries_eq_recorded (xs : List Step) :
    (∀ i severity, (reportsOf i (empty.history xs)).flatMap (entries · severity) ++
      (empty.after xs).bufferOf i severity = recordedIn i severity (empty.history xs)) ∧
    (∀ ys i, reportsOf i (empty.history xs) <+: reportsOf i (empty.history (xs ++ ys))) ∧
    ∀ i inner, Nested inner →
      (empty.after (xs ++ .enter i :: inner)).opened = i :: (empty.after xs).opened ∧
      ∀ f, (empty.after (xs ++ .enter i :: (inner ++ [.leave f]))).opened =
        (empty.after xs).opened := by
  refine ⟨fun i severity => ?_, fun ys i => ?_, fun i inner hinner => ⟨?_, fun f => ?_⟩⟩
  · rw [bufferOf_after]
    rfl
  · rw [history_append, reportsOf, reportsOf, List.filterMap_append]
    exact List.prefix_append ..
  · rw [after_append, after_cons, opened_after_of_nested _ hinner]
    rfl
  · rw [after_append]
    exact opened_after_of_nested _ (.inside hinner .nil)

/-- Two documents, the first one open. -/
def aroundSteps : List Step :=
  [.add ⟨"a", .empty, none, none⟩, .add ⟨"b", .empty, none, none⟩, .enter 0]

/-- In the second document: an entry, then one in the first document, which is drained before it is
left by a failure. -/
def insideSteps : List Step :=
  [.record "r" .warn (some "x") none, .enter 0, .record "r" .warn (some "y") none, .drain 0,
    .leave (some .noDocument)]

/-- The first document is the innermost one again, its entry has been drained, and the entry of the
second one is in its buffer. -/
theorem entries_eq_recorded_inside :
    Nested insideSteps ∧
    (empty.after (aroundSteps ++ .enter 1 :: (insideSteps ++ [.leave none]))).opened = [0] ∧
    ∀ i severity, (reportsOf i (empty.history (aroundSteps ++ .enter 1 :: insideSteps))).flatMap
      (entries · severity) ++
        (empty.after (aroundSteps ++ .enter 1 :: insideSteps)).bufferOf i severity =
      recordedIn i severity (empty.history (aroundSteps ++ .enter 1 :: insideSteps)) :=
  have h : Nested insideSteps := .plain rfl (.inside (.plain rfl (.plain rfl .nil)) .nil)
  ⟨h, ((entries_eq_recorded aroundSteps).2.2 1 insideSteps h).2 none,
    (entries_eq_recorded (aroundSteps ++ .enter 1 :: insideSteps)).1⟩

end TemplateLint.Session
