import TemplateLint.Batch
import TemplateLint.Proofs.Linter.Configuration

/-!
Templates that one linter lints one after the other do not influence each other.

A template may fail at any point and leave reports, a prepared text, a count of open tags or a rule
table behind. No later template sees any of it, since a linter's answers depend on its configuration
alone and no template changes that. Main statement: `answerAll_eq`.
-/

namespace TemplateLint

/-- A template that is to be linted. -/
structure Request where
  source : String
  name : Option String
  filename : Option String

namespace Linter

/-- What is answered to a request: the reports of the template, or why it has none. -/
abbrev Answer := Except Fault (List Report)

def answer (l : Linter) (q : Request) : Linter × Answer := l.lint q.source q.name q.filename

/-- Answers requests one after the other. -/
def answerAll : List Request → Linter → Linter × List Answer
  | [], l => (l, [])
  | q :: qs, l =>
    let (l, a) := l.answer q
    let (l, as) := answerAll qs l
    (l, a :: as)

/-- The regions that are read for a request, with their numbers. -/
def regionsFor (l : Linter) (q : Request) : List Grammar.Region :=
  match l.start q.source q.name with
  | (_, .error _) => []
  | (l, .ok st) => (Grammar.readFrom l.extensions st l.opened).regions

lemma answer_eq (l : Linter) (q : Request) :
    Keeps l (l.answer q).1 ∧
      (l.answer q).2 = l.configuration.lint q.source q.name q.filename := lint_eq ..

/-- Linters of one configuration answer alike, whatever they have been asked before. -/
lemma answer_congr {l l' : Linter} (h : l'.configuration = l.configuration) (q : Request) :
    (l'.answer q).2 = (l.answer q).2 := by
  rw [(answer_eq l' q).2, (answer_eq l q).2, h]

lemma regionsFor_eq (l : Linter) (q : Request) :
    l.regionsFor q =
      match Grammar.Stream.start l.configuration.dialect
          (l.configuration.preprocessed q.source) with
      | .error _ => []
      | .ok st => (Grammar.readFrom l.configuration.extensions st 0).regions := by
  have hp : (l.prepare q.source q.name).preprocessed q.source =
      l.configuration.preprocessed q.source := rfl
  have hd : (l.prepare q.source q.name).dialect = l.configuration.dialect := rfl
  simp only [regionsFor, start, hp, hd, Except.mapError]
  cases Grammar.Stream.start l.configuration.dialect (l.configuration.preprocessed q.source) <;> rfl

lemma regionsFor_congr {l l' : Linter} (h : l'.configuration = l.configuration) (q : Request) :
    l'.regionsFor q = l.regionsFor q := by
  rw [regionsFor_eq, regionsFor_eq, h]

lemma keeps_answerAll (l : Linter) (qs : List Request) : Keeps l (answerAll qs l).1 := by
  induction qs generalizing l with
  | nil => exact ⟨rfl, rfl⟩
  | cons q qs ih => exact (answer_eq l q).1.trans (ih (l.answer q).1)

lemma answers_answerAll (l : Linter) (qs : List Request) :
    (answerAll qs l).2 = qs.map fun q => (l.answer q).2 := by
  induction qs generalizing l with
  | nil => rfl
  | cons q qs ih =>
    have hfirst : (answerAll (q :: qs) l).2 = (l.answer q).2 :: (answerAll qs (l.answer q).1).2 :=
      rfl
    have hrest : (answerAll qs (l.answer q).1).2 = qs.map fun q' => (l.answer q').2 := by
      rw [ih]
      exact List.map_congr_left fun q' _ => answer_congr (answer_eq l q).1.configuration q'
    rw [hfirst, hrest, List.map_cons]

/-- **Templates are independent.** Every answer is the one that a new linter gives to that request
alone. After the requests, failed ones among them, no document is open, and in the next template
the tags are numbered from zero again: its regions are those that a new linter reads. -/
theorem answerAll_eq (s : Settings) (t : RuleTable) (reach : Linter.Reach) (qs : List Request) :
    let l := Batch.linterOf s t reach
    (answerAll qs l).2 = qs.map (fun q => (l.answer q).2) ∧
      (answerAll qs l).1.run.session.opened = [] ∧
      ∀ q : Request, ((answerAll qs l).1.start q.source q.name).1.opened = 0 ∧
        (answerAll qs l).1.regionsFor q = l.regionsFor q := by
  intro l
  have hkeeps := keeps_answerAll l qs
  exact ⟨answers_answerAll _ qs, hkeeps.opened,
    fun q => ⟨rfl, regionsFor_congr hkeeps.configuration q⟩⟩

end Linter

end TemplateLint
