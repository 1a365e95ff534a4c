import TemplateLint.Proofs.Session.History
import TemplateLint.Proofs.SourceIndex.Lines

/-!
What a recorded diagnostic says, and what becomes of an attempt that fails.

Whatever steps are taken in a session: every diagnostic in a buffer was recorded there by a rule,
and says of the rule, the document and the node's line what is true of them. Its line is one of the
document's index, of which it shows the text with all line breaks made into spaces. An attempt to
record that fails leaves the session as it was. Main statement: `recorded_or_unchanged`.
-/

namespace TemplateLint

/-! ### Line breaks -/

namespace Text

/-- Every line break becomes one space, in whichever of the three ways it is written. -/
lemma collapse_eq (cs : List Char) : collapse cs = respellBreaks [' '] cs := by
  rw [respellBreaks]
  induction cs using collapse.induct with
  | case1 cs ih => simp [collapse, unifyBreaks, ih]
  | case2 c cs h ih =>
    rw [collapse.eq_2 _ _ h, ih]
    by_cases hr : c = '\r'
    · subst hr
      have hcs : ∀ cs', cs ≠ '\n' :: cs' := fun cs' => h cs' rfl
      rw [unifyBreaks.eq_2 _ hcs]
      simp
    · rw [unifyBreaks.eq_3 _ _ (fun cs' hc => absurd hc hr) hr]
      by_cases hn : c = '\n' <;> simp [hr, hn]
  | case3 => rfl

lemma ne_break_of_mem_collapse {cs : List Char} {c : Char} (h : c ∈ collapse cs) :
    c ≠ '\r' ∧ c ≠ '\n' := by
  induction cs using collapse.induct with
  | case1 cs ih =>
    rw [collapse, List.mem_cons] at h
    rcases h with rfl | h
    · simp
    · exact ih h
  | case2 d cs hd ih =>
    rw [collapse.eq_2 _ _ hd, List.mem_cons] at h
    rcases h with rfl | h
    · split <;> grind
    · exact ih h
  | case3 => cases h

end Text

/-! ### What a diagnostic says -/

namespace SourceIndex

variable {ix : SourceIndex} {n : Int}

lemma exists_line?_of_mem_keys (h : n ∈ ix.keys) : ∃ text, ix.line? n = some text := by
  have hfind : (ix.find? n).isSome := hasLine_iff_mem_keys.2 h
  obtain ⟨ps, hps⟩ := Option.isSome_iff_exists.1 hfind
  exact ⟨_, by rw [line?, hps]; rfl⟩

end SourceIndex

/-- What a rule asks to be recorded: a message of `none` is one that is no text, the line is that of
a node. -/
structure Attempt where
  rule : String
  severity : Severity
  message : Option String
  line : Option Int

namespace Attempt

/-- The diagnostic says what is true of the attempt and of a document that looks like `w`. -/
structure Says (a : Attempt) (w : View) (e : Diagnostic) : Prop where
  severity : e.severity = a.severity
  rule : e.rule = a.rule
  filename : e.filename = w.filename
  message : a.message = some e.message
  /-- It has the line of the node, if that is in the index, and else none. -/
  line : ∀ n, e.line = some n ↔ a.line = some n ∧ n ∈ w.index.keys
  positive : ∀ n, e.line = some n → 1 ≤ n
  hidden : e.line = none → e.source = ""
  /-- It shows the text of its line, with a space for each line break. -/
  shown : ∀ n, e.line = some n → ∃ text, w.index.line? n = some text ∧
    e.source.toList = Text.respellBreaks [' '] text.toList
  flat : ∀ c ∈ e.source.toList, c ≠ '\r' ∧ c ≠ '\n'

/-- What can be recorded in a document that looks like `w`: no line of the index below the first
one, and a message that is a text of whole characters. -/
def Valid (a : Attempt) (w : View) : Prop :=
  (∀ n, a.line = some n → n ∈ w.index.keys → 1 ≤ n) ∧
    ∃ m, a.message = some m ∧ Text.Utf16.holdsHalf m = false

/-- The diagnostic that is recorded if the attempt is valid. -/
def diagnostic (a : Attempt) (w : View) : Diagnostic :=
  Document.diagnostic { toView := w } a.rule a.severity (a.message.getD "") a.line

variable {a : Attempt} {w : View}

lemma diagnostic_cases (a : Attempt) (w : View) :
    (∃ n text, a.line = some n ∧ n ∈ w.index.keys ∧ w.index.line? n = some text ∧
      a.diagnostic w = ⟨a.severity, a.rule, some n, Text.collapsed text, w.filename,
        a.message.getD ""⟩) ∨
    (∀ n, a.line = some n → n ∉ w.index.keys) ∧
      a.diagnostic w = ⟨a.severity, a.rule, none, "", w.filename, a.message.getD ""⟩ := by
  unfold diagnostic Document.diagnostic
  cases hline : a.line with
  | none => exact .inr ⟨by simp, rfl⟩
  | some n =>
    by_cases hn : n ∈ w.index.keys
    · obtain ⟨text, htext⟩ := SourceIndex.exists_line?_of_mem_keys hn
      refine .inl ⟨n, text, rfl, hn, htext, ?_⟩
      have hfilter : (some n).filter (fun n => w.index.hasLine (some n)) = some n := by
        simpa using SourceIndex.hasLine_iff_mem_keys.2 hn
      simp only [hfilter, htext, Option.getD_some]
    · refine .inr ⟨by simpa using hn, ?_⟩
      have hfilter : (some n).filter (fun n => w.index.hasLine (some n)) = none := by
        simpa using fun h => hn (SourceIndex.hasLine_iff_mem_keys.1 h)
      simp only [hfilter]

lemma flaws_eq_nil {line : Option Int} {message : Option String} :
    Document.flaws line message = [] ↔
      (∀ n, line = some n → 1 ≤ n) ∧ ∃ m, message = some m ∧ Text.Utf16.holdsHalf m = false := by
  rw [Document.flaws, List.append_eq_nil_iff]
  refine and_congr ?_ ?_
  · cases line <;> simp
  · cases message <;> simp

/-- A diagnostic has no flaws exactly if the attempt is valid. -/
lemma flaws_diagnostic : Document.flaws (a.diagnostic w).line a.message = [] ↔ a.Valid w := by
  rw [flaws_eq_nil, Valid]
  refine and_congr_left fun _ => ?_
  rcases diagnostic_cases a w with ⟨n, text, hline, hn, -, hd⟩ | ⟨hno, hd⟩
  · rw [hd, hline]
    exact forall_congr' fun k => ⟨fun h hk _ => h hk, fun h hk => h hk (Option.some.inj hk ▸ hn)⟩
  · rw [hd]
    exact ⟨fun _ k hk hmem => absurd hmem (hno k hk), fun _ => nofun⟩

/-- The diagnostic of a valid attempt says what it should. -/
lemma says_diagnostic (h : a.Valid w) : a.Says w (a.diagnostic w) := by
  obtain ⟨hlines, m, hm, -⟩ := h
  have hmessage : a.message = some (a.message.getD "") := by rw [hm]; rfl
  rcases diagnostic_cases a w with ⟨n, text, hline, hn, htext, hd⟩ | ⟨hno, hd⟩
  · rw [hd]
    refine ⟨rfl, rfl, rfl, hmessage, fun k => ?_, fun k hk => ?_, nofun, fun k hk => ?_, ?_⟩
    · rw [hline]
      exact ⟨by rintro h; exact ⟨h, Option.some.inj h ▸ hn⟩, fun h => h.1⟩
    · exact Option.some.inj hk ▸ hlines n hline hn
    · refine ⟨text, Option.some.inj hk ▸ htext, ?_⟩
      rw [Text.collapsed, String.toList_ofList, Text.collapse_eq]
    · intro c hc
      rw [Text.collapsed, String.toList_ofList] at hc
      exact Text.ne_break_of_mem_collapse hc
  · rw [hd]
    refine ⟨rfl, rfl, rfl, hmessage, fun k => ?_, nofun, fun _ => rfl, nofun, by simp⟩
    simpa using fun hk => hno k hk

def step (a : Attempt) : Session.Step := .record a.rule a.severity a.message a.line

def act (a : Attempt) : Act := .record a.severity a.message a.line

end Attempt

/-! ### Attempts in a session -/

namespace Session

variable {s : Session} {a : Attempt} {i : Nat} {d : Document}

lemma document?_eq_some_iff :
    s.document? = some d ↔ ∃ i, s.opened.head? = some i ∧ s.documents[i]? = some d :=
  Option.bind_eq_some_iff

lemma record_of_none (h : s.document? = none) :
    s.record a.rule a.severity a.message a.line = .error .noDocument := by
  unfold record
  rw [h]
  cases s.opened <;> rfl

/-- An attempt in an open document is recorded there, unless the diagnostic has flaws. -/
lemma record_of_some (hi : s.opened.head? = some i) (hd : s.documents[i]? = some d) :
    s.record a.rule a.severity a.message a.line =
      match Document.flaws (a.diagnostic d.toView).line a.message with
      | [] => .ok (a.diagnostic d.toView, s.modifyAt i (·.add (a.diagnostic d.toView)))
      | fields => .error (.invalid fields) := by
  obtain ⟨is, ho⟩ : ∃ is, s.opened = i :: is := List.head?_eq_some_iff.1 hi
  have hdocument : s.document? = some d := document?_eq_some_iff.2 ⟨i, hi, hd⟩
  simp only [record, ho, hdocument]
  rfl

lemma record_of_valid (hi : s.opened.head? = some i) (hd : s.documents[i]? = some d)
    (h : a.Valid d.toView) : s.record a.rule a.severity a.message a.line =
      .ok (a.diagnostic d.toView, s.modifyAt i (·.add (a.diagnostic d.toView))) := by
  rw [record_of_some hi hd, Attempt.flaws_diagnostic.2 h]

lemma record_of_not_valid (hd : s.document? = some d) (h : ¬a.Valid d.toView) :
    ∃ fields, s.record a.rule a.severity a.message a.line = .error (.invalid fields) := by
  obtain ⟨i, hi, hd⟩ := document?_eq_some_iff.1 hd
  rw [record_of_some hi hd]
  split
  · next hflaws => exact absurd (Attempt.flaws_diagnostic.1 hflaws) h
  · exact ⟨_, rfl⟩

lemma valid_of_recorded {e : Diagnostic} (h : (s.take a.step).2 = .recorded e) :
    ∃ i d, s.opened.head? = some i ∧ s.documents[i]? = some d ∧ a.Valid d.toView ∧
      e = a.diagnostic d.toView := by
  simp only [take, Attempt.step] at h
  cases hdocument : s.document? with
  | none =>
    rw [record_of_none hdocument] at h
    cases h
  | some d =>
    by_cases hvalid : a.Valid d.toView
    · obtain ⟨i, hi, hd⟩ := document?_eq_some_iff.1 hdocument
      rw [record_of_valid hi hd hvalid] at h
      cases h
      exact ⟨i, d, hi, hd, hvalid, rfl⟩
    · obtain ⟨fields, hrecord⟩ := record_of_not_valid hdocument hvalid
      rw [hrecord] at h
      cases h

/-! ### Where diagnostics come from -/

lemma exists_document_modifyAt (hd : s.documents[i]? = some d) (j : Nat) {f : Document → Document}
    (hf : ∀ d, (f d).toView = d.toView) :
    ∃ d', (s.modifyAt j f).documents[i]? = some d' ∧ d'.toView = d.toView := by
  rw [modifyAt, List.getElem?_modify, hd]
  refine ⟨_, rfl, ?_⟩
  split
  · exact hf d
  · rfl

/-- A step changes nothing about a document but its buffers. -/
lemma exists_document_take (x : Step) (hd : s.documents[i]? = some d) :
    ∃ d', (s.take x).1.documents[i]? = some d' ∧ d'.toView = d.toView := by
  cases x with
  | add v =>
    have hi : i < s.documents.length := (List.getElem?_eq_some_iff.1 hd).1
    exact ⟨d, (List.getElem?_append_left hi).trans hd, rfl⟩
  | enter j => exact ⟨d, hd, rfl⟩
  | leave failure => cases failure <;> exact ⟨d, hd, rfl⟩
  | record rule severity message line =>
    rcases record_cases s rule severity message line with ⟨f, hf⟩ | ⟨j, _, e, -, -, -, hr⟩
    · exact ⟨d, by rw [take, hf]; exact hd, rfl⟩
    · rw [take, hr]
      exact exists_document_modifyAt hd j fun d => Document.toView_add d e
  | drain j =>
    have hdrain : (s.take (.drain j)).1 = s.modifyAt j Document.drained := by
      simp only [take, drain]
      cases s.documents[j]? <;> rfl
    rw [hdrain]
    exact exists_document_modifyAt hd j fun _ => rfl

lemma exists_document_after (xs : List Step) (hd : s.documents[i]? = some d) :
    ∃ d', (s.after xs).documents[i]? = some d' ∧ d'.toView = d.toView := by
  induction xs generalizing s d with
  | nil => exact ⟨d, hd, rfl⟩
  | cons x xs ih =>
    obtain ⟨d₁, hd₁, hview₁⟩ := exists_document_take x hd
    obtain ⟨d₂, hd₂, hview₂⟩ := ih hd₁
    exact ⟨d₂, hd₂, hview₂.trans hview₁⟩

/-- What has been recorded in a document still says what is true of it after all steps. -/
lemma says_of_mem_history {xs : List Step} {here : Option Nat} {e : Diagnostic}
    (h : ⟨here, a.step, .recorded e⟩ ∈ s.history xs) :
    ∃ i d, here = some i ∧ (s.after xs).documents[i]? = some d ∧ a.Says d.toView e := by
  induction xs generalizing s with
  | nil => cases h
  | cons x xs ih =>
    rw [history, List.mem_cons] at h
    rcases h with h | h
    · obtain ⟨rfl, hstep, hanswer⟩ := Entry.mk.inj h
      rw [← hstep] at hanswer ⊢
      obtain ⟨i, d, hi, hd, hvalid, rfl⟩ := valid_of_recorded hanswer.symm
      obtain ⟨d', hd', hview⟩ := exists_document_after (a.step :: xs) hd
      exact ⟨i, d', hi, hd', by rw [hview]; exact Attempt.says_diagnostic hvalid⟩
    · exact ih h

/-- What is in a buffer has been recorded there. -/
lemma mem_history_of_mem_buffer {xs : List Step} {severity : Severity} {e : Diagnostic}
    (h : e ∈ (empty.after xs).bufferOf i severity) :
    ∃ a : Attempt, a.severity = severity ∧ ⟨some i, a.step, .recorded e⟩ ∈ empty.history xs := by
  have hall := bufferOf_after empty xs i severity
  have hmem : e ∈ recordedIn i severity (empty.history xs) := by
    have hnone : empty.bufferOf i severity = [] := rfl
    rw [hnone, List.nil_append] at hall
    rw [← hall]
    exact List.mem_append_right _ h
  obtain ⟨⟨here, step, answer⟩, hentry, hdiagnostic⟩ := List.mem_filterMap.1 hmem
  unfold Entry.diagnostic? at hdiagnostic
  dsimp only at hdiagnostic
  split at hdiagnostic
  · next rule severity' message line e' =>
    split at hdiagnostic
    · next hplace =>
      cases hdiagnostic
      obtain ⟨rfl, rfl⟩ := hplace
      exact ⟨⟨rule, severity', message, line⟩, rfl, hentry⟩
    · cases hdiagnostic
  · cases hdiagnostic

end Session

/-! ### Attempts that fail and attempts that do not -/

namespace Attempt

/-- The attempt fails, and everything is as before. -/
structure Refused (a : Attempt) (s : Session) (f : Failure) : Prop where
  unchanged : s.take a.step = (s, .failed f)
  /-- A callback that makes the attempt fails there, and leaves the run as it was. -/
  raised : ∀ key acts (run : Run), run.session = s →
    run.performAll a.rule key (a.act :: acts) = (run, some f)
  failure : f = .noDocument ∧ s.document? = none ∨
    ∃ fields d, f = .invalid fields ∧ s.document? = some d ∧ ¬a.Valid d.toView

/-- A diagnostic is put at the end of one buffer of the document with the given number. -/
structure Recorded (a : Attempt) (s : Session) (i : Nat) (e : Diagnostic) : Prop where
  answer : (s.take a.step).2 = .recorded e
  buffers : ∀ j severity, (s.take a.step).1.bufferOf j severity =
    s.bufferOf j severity ++ if j = i ∧ severity = a.severity then [e] else []

variable {a : Attempt} {s : Session}

lemma refused_of_error {f : Failure}
    (h : s.record a.rule a.severity a.message a.line = .error f)
    (hf : f = .noDocument ∧ s.document? = none ∨
      ∃ fields d, f = .invalid fields ∧ s.document? = some d ∧ ¬a.Valid d.toView) :
    a.Refused s f where
  unchanged := by rw [step, Session.take, h]
  raised key acts run hrun := by
    have hperform : run.perform a.rule key a.act = .error f := by
      rw [act, Run.perform, hrun, h]
      rfl
    rw [Run.performAll, hperform]
  failure := hf

lemma exists_refused (h : ∀ d, s.document? = some d → ¬a.Valid d.toView) : ∃ f, a.Refused s f := by
  cases hdocument : s.document? with
  | none => exact ⟨_, refused_of_error (Session.record_of_none hdocument) (.inl ⟨rfl, hdocument⟩)⟩
  | some d =>
    have hinvalid := h d hdocument
    obtain ⟨fields, hrecord⟩ := Session.record_of_not_valid hdocument hinvalid
    exact ⟨_, refused_of_error hrecord (.inr ⟨fields, d, rfl, hdocument, hinvalid⟩)⟩

lemma recorded_of_valid {i : Nat} {d : Document} (hi : s.opened.head? = some i)
    (hd : s.documents[i]? = some d) (h : a.Valid d.toView) :
    a.Recorded s i (a.diagnostic d.toView) := by
  have htake : s.take a.step =
      (s.modifyAt i (·.add (a.diagnostic d.toView)), .recorded (a.diagnostic d.toView)) := by
    rw [step, Session.take, Session.record_of_valid hi hd h]
  refine ⟨by rw [htake], fun j severity => ?_⟩
  rw [htake]
  by_cases hj : j = i
  · subst hj
    have hseverity := (says_diagnostic h).severity
    simp [Session.bufferOf, Session.modifyAt, hd, hseverity, eq_comm]
  · simp [Session.bufferOf_modifyAt_of_ne s (Ne.symm hj), hj]

end Attempt

namespace Session

/-- **Recorded diagnostics are well formed, and recording is atomic.** Whatever steps are taken in a
new session: each diagnostic in a buffer of a document was recorded there, with the severity of the
buffer, and says what is true of the rule, the document and the node's line. An attempt to record
is refused and changes nothing, unless it is valid in the innermost open document; then one
diagnostic is put at the end of one of that document's buffers, and nothing else changes. -/
theorem recorded_or_unchanged (xs : List Step) :
    (∀ i d severity, (empty.after xs).documents[i]? = some d → ∀ e ∈ d.buffer severity,
      ∃ a : Attempt, a.severity = severity ∧ a.Says d.toView e ∧
        ⟨some i, a.step, .recorded e⟩ ∈ empty.history xs) ∧
    ∀ a : Attempt,
      ((∀ d, (empty.after xs).document? = some d → ¬a.Valid d.toView) →
        ∃ f, a.Refused (empty.after xs) f) ∧
      ∀ i d, (empty.after xs).opened.head? = some i → (empty.after xs).documents[i]? = some d →
        a.Valid d.toView → ∃ e, a.Says d.toView e ∧ a.Recorded (empty.after xs) i e := by
  refine ⟨fun i d severity hd e he => ?_, fun a => ⟨Attempt.exists_refused, ?_⟩⟩
  · have hbuffer : e ∈ (empty.after xs).bufferOf i severity := by
      rw [bufferOf, hd]
      exact he
    obtain ⟨a, hseverity, hentry⟩ := mem_history_of_mem_buffer hbuffer
    obtain ⟨j, d', hj, hd', hsays⟩ := says_of_mem_history hentry
    obtain rfl := Option.some.inj hj
    obtain rfl := Option.some.inj (hd.symm.trans hd')
    exact ⟨a, hseverity, hsays, hentry⟩
  · intro i d hi hd hvalid
    exact ⟨_, Attempt.says_diagnostic hvalid, Attempt.recorded_of_valid hi hd hvalid⟩

def brokenView : View := ⟨"t", ⟨[(0, ["x"]), (2, ["a\r", "\nb\r\n"])], []⟩, none, none⟩

/-- The document is open, and a rule has recorded something on the line with the line break. -/
def brokenSteps : List Step :=
  [.add brokenView, .enter 0, .record "r" .warn (some "m") (some 2)]

/-- The line break is shown as a space. On the line below the first one nothing is recorded. -/
theorem recorded_or_unchanged_broken :
    (∃ e, (empty.after brokenSteps).bufferOf 0 .warn = [e] ∧ e.line = some 2 ∧ e.source = "a b " ∧
      ∃ a : Attempt, a.Says brokenView e) ∧
    ∃ f, Attempt.Refused ⟨"r", .log, some "m", some 0⟩ (empty.after brokenSteps) f := by
  obtain ⟨hbuffers, hattempts⟩ := recorded_or_unchanged brokenSteps
  refine ⟨⟨⟨.warn, "r", some 2, "a b ", "t", "m"⟩, by decide +kernel, rfl, rfl, ?_⟩, ?_⟩
  · obtain ⟨d, hd, hmem⟩ : ∃ d, (empty.after brokenSteps).documents[0]? = some d ∧
        ⟨.warn, "r", some 2, "a b ", "t", "m"⟩ ∈ d.buffer .warn := ⟨_, rfl, by decide +kernel⟩
    obtain ⟨a, -, hsays, -⟩ := hbuffers 0 d .warn hd _ hmem
    obtain rfl := Option.some.inj hd
    exact ⟨a, hsays⟩
  · refine (hattempts _).1 fun d hd hvalid => ?_
    obtain rfl := Option.some.inj hd
    exact absurd (hvalid.1 0 rfl (by decide +kernel)) (by decide)

end Session

end TemplateLint
