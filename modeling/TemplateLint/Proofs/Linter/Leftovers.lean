import Mathlib
import TemplateLint.Proofs.Grammar.Balance
import TemplateLint.Proofs.Lexeme.Evaluation
import TemplateLint.Proofs.Linter.Independence

/-!
What a template leaves in the reports of a linter.

A template that is linted takes its reports along, so a linter has as many reports after it as
before. A template that fails does not: the lint regions that have been closed by then leave their
reports behind, in front of those of all later templates. Main statement: `leftover_of_answer`.
-/

namespace TemplateLint

open Grammar (Region)

namespace Configuration

open Linter (Fault)

variable {c : Configuration} {text : String} {name filename : Option String}

/-- The reports that a template leaves behind: those of its regions, if it fails. -/
def leftover (c : Configuration) (source : String) (name filename : Option String) : List Report :=
  match c.read source name filename with
  | (reports, .error _) => reports
  | (_, .ok _) => []

/-- A region is linted, and has a report. -/
def Reports (c : Configuration) (text : String) (name filename : Option String) (r : Region)
    (x : Report) : Prop :=
  ∃ k, r.purpose = .lint k ∧ c.regionReport text r k name filename = .ok x

/-- Regions are closed up to one that has no report, or cannot be described. -/
structure Closes (c : Configuration) (text : String) (name filename : Option String)
    (closed rest : List Region) (reports : List Report) (fault : Option Fault) : Prop where
  reports : List.Forall₂ (c.Reports text name filename) (Grammar.linted closed) reports
  through : fault = none → rest = []
  stopped : ∀ f, fault = some f → ∃ r later, rest = r :: later ∧
    ((f = .undescribed ∧ c.Undescribed r) ∨
      ∃ k, r.purpose = .lint k ∧ c.regionReport text r k name filename = .error f)

lemma treeReport_eq_ok_iff {t : RuleTable} (hrules : c.rules = .ok t) {levels : Nat} {root : Node}
    {index : SourceIndex} {x : Report} :
    c.treeReport levels root index name filename = .ok x ↔
      Lint.outcomeOf t levels (Lint.viewOf root index (Linter.firstText filename name) c.app)
        root = .ok x := by
  rw [treeReport, hrules]
  dsimp only
  cases Lint.outcomeOf t levels (Lint.viewOf root index (Linter.firstText filename name) c.app)
    root <;> simp [Except.mapError]

lemma exists_closes (hmode : c.mode = .block) (hraises : c.raises = false) (text : String)
    (name filename : Option String) (rs : List Region) :
    ∃ closed rest, rs = closed ++ rest ∧ c.Closes text name filename closed rest
      (c.closings text name filename rs).1 (c.closings text name filename rs).2 := by
  induction rs with
  | nil => exact ⟨[], [], rfl, .nil, fun _ => rfl, fun _ h => by cases h⟩
  | cons r rs ih =>
    obtain ⟨closed, rest, hrs, hcloses⟩ := ih
    rw [closings]
    cases hr : r.purpose with
    | inspect =>
      by_cases hd : c.Undescribed r
      · rw [closing_of_undescribed hd]
        exact ⟨[], r :: rs, rfl, .nil, by simp,
          fun g hg => ⟨r, rs, rfl, .inl ⟨(Option.some.inj hg).symm, hd⟩⟩⟩
      rw [closing_of_inspect hr hd]
      refine ⟨r :: closed, rest, by rw [hrs, List.cons_append], ?_, hcloses.through,
        hcloses.stopped⟩
      rw [Grammar.linted_cons_of_inspect hr]
      exact hcloses.reports
    | lint k =>
      cases hreport : c.regionReport text r k name filename with
      | error f =>
        rw [closing_of_error hmode hr hreport]
        refine ⟨[], r :: rs, rfl, .nil, by simp, fun g hg => ⟨r, rs, rfl, .inr ⟨k, hr, ?_⟩⟩⟩
        rw [hreport, Option.some.inj hg]
      | ok report =>
        rw [closing_of_ok hmode hr hreport, hraises, Bool.and_false]
        refine ⟨r :: closed, rest, by rw [hrs, List.cons_append], ?_, hcloses.through,
          hcloses.stopped⟩
        rw [Grammar.linted_cons_of_lint hr]
        exact .cons ⟨k, hr, hreport⟩ hcloses.reports

variable {source : String}

lemma leftover_of_lint {reports : List Report} (h : c.lint source name filename = .ok reports) :
    c.leftover source name filename = [] := by
  unfold leftover
  unfold lint at h
  rcases hread : c.read source name filename with ⟨rs, f | tree⟩
  · rw [hread] at h
    cases h
  · rfl

lemma read_of_lint {f : Fault} (hmode : c.mode = .block)
    (h : c.lint source name filename = .error f) :
    c.read source name filename = (c.leftover source name filename, .error f) := by
  have hnot : ¬c.mode = .template := by simp [hmode]
  unfold lint at h
  unfold leftover
  rcases hread : c.read source name filename with ⟨rs, g | tree⟩ <;> rw [hread] at h <;>
    dsimp only at h
  · cases h
    rfl
  · rw [if_neg hnot] at h
    cases h

lemma leftover_of_mode (hmode : c.mode ≠ .block) : c.leftover source name filename = [] := by
  have hnone : (c.read source name filename).1 = [] := by
    cases hst : Grammar.Stream.start c.dialect (c.preprocessed source) with
    | error f => simp only [read, hst]
    | ok st => rw [read_of_start hst, closings_fst_of_mode hmode]
  unfold leftover
  split
  · next hread => rwa [hread] at hnone
  · rfl

end Configuration

namespace Linter

variable {l : Linter}

/-! ### Reports that stay -/

lemma reports_lintWhole (l : Linter) (tree : Node) (source : String)
    (name filename : Option String) :
    (l.lintWhole tree source name filename).1.reports = l.reports := by
  unfold lintWhole
  dsimp only
  split
  · rfl
  · next tokens htokens =>
    have hadd := (lintTree_eq (l.prepare source name) (l.reach none) tree (.ofTokens tokens) name
      filename).1
    exact hadd.reports.trans (List.append_nil _)

/-- What is in the reports after a template is what was there before, and its leftover. -/
lemma reports_lint (l : Linter) (source : String) (name filename : Option String) :
    (l.lint source name filename).1.reports =
      l.reports ++ l.configuration.leftover source name filename := by
  obtain ⟨-, hreports, hout⟩ := read_eq l source name filename
  unfold lint Configuration.leftover
  rcases hr : l.read source name filename with ⟨l₁, f | tree⟩ <;>
    rcases hc : l.configuration.read source name filename with ⟨reports, g | tree'⟩ <;>
    rw [hr] at hreports hout <;> rw [hc] at hreports hout
  · exact hreports
  · cases hout
  · cases hout
  · dsimp only
    rw [List.append_nil]
    split
    · have hwhole := reports_lintWhole { l₁ with reports := l.reports } tree source name filename
      rcases hw : ({ l₁ with reports := l.reports } : Linter).lintWhole tree source name filename
        with ⟨l₂, f | report⟩ <;> rw [hw] at hwhole
      · exact hwhole
      · exact hwhole
    · rfl

/-! ### Reports of regions -/

/-- The region is linted for a request, and `x` is the report of its tree on its block. -/
def ReportsOn (l : Linter) (q : Request) (r : Region) (x : Report) : Prop :=
  ∃ t k tokens, l.resolve.2 = .ok t ∧ r.purpose = .lint k ∧
    tokenize l.dialect (l.preprocessed q.source) = .ok tokens ∧
    ∀ run, (Lint.tree t (l.reach (some r)) r.root (.ofTokens (Block.extract tokens k).tokens)
      (firstText q.filename q.name) l.app run).2 = .ok x

lemma reportsOn_iff {q : Request} {r : Region} {x : Report} : l.ReportsOn q r x ↔
    l.configuration.Reports (l.configuration.preprocessed q.source) q.name q.filename r x := by
  obtain ⟨events, hresolve⟩ := resolve_eq l
  have htext : l.configuration.preprocessed q.source = l.preprocessed q.source := rfl
  have hdialect : l.configuration.dialect = l.dialect := rfl
  have hrules : l.configuration.rules = l.resolve.2 := by rw [hresolve]; rfl
  simp only [ReportsOn, Configuration.Reports, Configuration.regionReport, htext, hdialect,
    Lint.tree_outcome]
  constructor
  · rintro ⟨t, k, tokens, ht, hk, htokens, htree⟩
    refine ⟨k, hk, ?_⟩
    rw [htokens]
    exact (Configuration.treeReport_eq_ok_iff (hrules.trans ht)).2 (htree (.start .empty))
  · rintro ⟨k, hk, hreport⟩
    cases htokens : tokenize l.dialect (l.preprocessed q.source) with
    | error f =>
      rw [htokens] at hreport
      cases hreport
    | ok tokens =>
      simp only [htokens] at hreport
      cases ht : l.resolve.2 with
      | error f =>
        rw [Configuration.treeReport, hrules, ht] at hreport
        cases hreport
      | ok t =>
        exact ⟨t, k, tokens, rfl, hk, rfl,
          fun _ => (Configuration.treeReport_eq_ok_iff (hrules.trans ht)).1 hreport⟩

/-- A request that fails with `f` has closed some of its regions and left their reports behind. -/
structure Leftover (l : Linter) (q : Request) (f : Fault) (closed rest : List Region)
    (left : List Report) : Prop where
  regions : l.regionsFor q = closed ++ rest
  /-- There is one report for each lint region that was closed. -/
  reports : List.Forall₂ (l.ReportsOn q) (Grammar.linted closed) left
  /-- The first region that was not closed has no report, or it cannot be described … -/
  stopped : ∀ r later, rest = r :: later →
    ((∃ k, r.purpose = .lint k) ∧ ∀ x, ¬l.ReportsOn q r x) ∨
      (f = .undescribed ∧ r.purpose = .inspect ∧ r.root.describe? (l.reach (some r)) = none)
  /-- … and if all were closed, then the template is not one that the grammar allows. -/
  grammar : rest = [] → ∃ g, f = .grammar g

/-- In block mode a template that fails leaves the reports of the regions that it has closed. -/
lemma exists_leftover {q : Request} {f : Fault} (hmode : l.configuration.mode = .block)
    (hraises : l.configuration.raises = false)
    (h : l.configuration.lint q.source q.name q.filename = .error f) :
    ∃ closed rest, Leftover l q f closed rest
      (l.configuration.leftover q.source q.name q.filename) := by
  set c := l.configuration with hc
  have hread := Configuration.read_of_lint hmode h
  have hregions := regionsFor_eq l q
  rw [← hc] at hregions
  cases hst : Grammar.Stream.start c.dialect (c.preprocessed q.source) with
  | error g =>
    rw [hst] at hregions
    simp only [Configuration.read, hst] at hread
    obtain ⟨hnone, hfault⟩ := Prod.mk.inj hread
    rw [← hnone]
    exact ⟨[], [], hregions, .nil, by simp, fun _ => ⟨g, (Except.error.inj hfault).symm⟩⟩
  | ok st =>
    rw [hst] at hregions
    rw [Configuration.read_of_start hst] at hread
    obtain ⟨hreports, hfault⟩ := Prod.mk.inj hread
    rw [← hreports]
    obtain ⟨closed, rest, hsplit, hcloses⟩ := Configuration.exists_closes hmode hraises
      (c.preprocessed q.source) q.name q.filename (Grammar.readFrom c.extensions st).regions
    have hclosed := hcloses.reports.imp fun r x => reportsOn_iff.2
    rcases hclosing : (c.closings (c.preprocessed q.source) q.name q.filename
      (Grammar.readFrom c.extensions st).regions).2 with _ | g
    · -- all regions have been closed, so it is the grammar that the template fails at
      obtain rfl := hcloses.through hclosing
      rw [hclosing] at hfault
      refine ⟨closed, [], hregions.trans hsplit, hclosed, by simp, fun _ => ?_⟩
      cases htree : (Grammar.readFrom c.extensions st).tree <;> rw [htree] at hfault <;>
        cases hfault
      exact ⟨_, rfl⟩
    · obtain ⟨r, later, rfl, hstopped⟩ := hcloses.stopped g hclosing
      refine ⟨closed, r :: later, hregions.trans hsplit, hclosed, fun r' later' heq => ?_, by simp⟩
      obtain ⟨rfl, -⟩ := List.cons.inj heq
      obtain ⟨rfl, hinspect, hdescribe⟩ | ⟨k, hk, hreport⟩ := hstopped
      · rw [hclosing] at hfault
        exact .inr ⟨(Except.error.inj hfault).symm, hinspect, hdescribe⟩
      refine .inl ⟨⟨k, hk⟩, fun x hx => ?_⟩
      obtain ⟨k', hk', hreport'⟩ := reportsOn_iff.1 hx
      obtain rfl : k = k' := by simpa [hk] using hk'
      exact absurd (hreport.symm.trans hreport') (by simp)

lemma configuration_answerAll (l : Linter) (qs : List Request) (before : List Report) :
    ({ (answerAll qs l).1 with reports := before } : Linter).configuration = l.configuration :=
  (keeps_answerAll l qs).configuration

/-- **A template that is linted leaves no reports behind, and one that fails leaves those of the
regions that were closed before.** In whatever state the linter is, and whatever its reports are: a
template that is answered by reports leaves them as they are. Outside of block mode every template
does. Otherwise the reports of all lint regions closed before the fault stay behind them. -/
theorem leftover_of_answer (s : Settings) (t : RuleTable) (reach : Linter.Reach)
    (qs : List Request) (before : List Report) (q : Request) :
    let l : Linter := { (answerAll qs (Batch.linterOf s t reach)).1 with reports := before }
    ∃ left, (l.answer q).1.reports = before ++ left ∧
      (∀ reports, (l.answer q).2 = .ok reports → left = []) ∧
      (s.mode ≠ .block → left = []) ∧
      ∀ f, (l.answer q).2 = .error f → s.mode = .block →
        ∃ closed rest, Leftover l q f closed rest left := by
  intro l
  have hconfiguration : l.configuration = (Batch.linterOf s t reach).configuration :=
    configuration_answerAll ..
  have hmode : l.configuration.mode = s.mode := by rw [hconfiguration]; rfl
  have hraises : l.configuration.raises = false := by rw [hconfiguration]; rfl
  have hanswer := (answer_eq l q).2
  refine ⟨l.configuration.leftover q.source q.name q.filename, reports_lint l _ _ _,
    fun reports h => ?_, fun h => ?_, fun f h hblock => ?_⟩
  · exact Configuration.leftover_of_lint (hanswer.symm.trans h)
  · exact Configuration.leftover_of_mode (hmode ▸ h)
  · exact exists_leftover (hmode.trans hblock) hraises (hanswer.symm.trans h)

/-- An empty lint region, and then a tag that nobody knows. -/
def strayRequest : Request := ⟨"\x7b%lint%\x7d\x7b%endlint%\x7d\x7b%x%\x7d", none, none⟩

def strayStream : Grammar.Stream where
  current := ⟨1, .blockBegin, 0⟩
  ahead := [⟨1, .name "lint", 1⟩, ⟨1, .blockEnd, 2⟩, ⟨1, .blockBegin, 3⟩, ⟨1, .name "endlint", 4⟩,
    ⟨1, .blockEnd, 5⟩, ⟨1, .blockBegin, 6⟩, ⟨1, .name "x", 7⟩, ⟨1, .blockEnd, 8⟩]
  fault := none
  bound := 11

lemma start_strayRequest : Grammar.Stream.start {} strayRequest.source = .ok strayStream := by
  rw [Grammar.Stream.start, Lexer.lex_default]
  decide +kernel

lemma exists_tokens_strayRequest : ∃ tokens, tokenize {} strayRequest.source = .ok tokens := by
  have hok : (tokenize {} strayRequest.source).isOk := by
    rw [tokenize, Lexer.lex_default]
    decide +kernel
  exact exists_eq_ok hok

lemma readFrom_strayStream : ∃ r f,
    (Grammar.readFrom [.lint, .inspect] strayStream).regions = [r] ∧ r.purpose = .lint 0 ∧
      r.body = [] ∧ (Grammar.readFrom [.lint, .inspect] strayStream).tree = .error f := by
  have hregions : (Grammar.readFrom [.lint, .inspect] strayStream).regions.map
      (fun r => (r.purpose, r.body.isEmpty)) = [(.lint 0, true)] := by decide +kernel
  have htree : (Grammar.readFrom [.lint, .inspect] strayStream).tree.isOk = false := by
    decide +kernel
  obtain ⟨r, hr, hpair⟩ := List.map_eq_singleton_iff.1 hregions
  obtain ⟨hpurpose, hempty⟩ := Prod.mk.inj hpair
  obtain ⟨f, hf⟩ := exists_eq_error htree
  exact ⟨r, f, hr, hpurpose, List.isEmpty_iff.1 hempty, hf⟩

lemma read_strayRequest : ∃ x f, (Batch.linterOf {} .empty).configuration.read strayRequest.source
    none none = ([x], .error f) := by
  set c := (Batch.linterOf {} .empty).configuration
  obtain ⟨r, f, hregions, hpurpose, hbody, htree⟩ := readFrom_strayStream
  obtain ⟨tokens, htokens⟩ := exists_tokens_strayRequest
  have hwalk : ∀ w, (Lint.outcomeOf .empty usualLevels w r.root).isOk := by
    intro w
    rw [Grammar.Region.root, hbody, Lint.outcomeOf]
    rfl
  have htokens' : tokenize c.dialect strayRequest.source = .ok tokens := htokens
  obtain ⟨x, hreport⟩ : ∃ x, c.regionReport strayRequest.source r 0 none none = .ok x :=
    Configuration.exists_regionReport rfl htokens' hwalk 0
  have hclosing := Configuration.closing_of_ok (c := c) rfl hpurpose hreport
  have hread : Grammar.readFrom c.extensions strayStream =
    Grammar.readFrom [.lint, .inspect] strayStream := rfl
  have hraises : c.raises = false := rfl
  rw [hraises, Bool.and_false] at hclosing
  refine ⟨x, .grammar f, ?_⟩
  rw [Configuration.read_of_start (c := c) start_strayRequest, hread, hregions, htree,
    Configuration.closings, show c.preprocessed strayRequest.source = strayRequest.source from rfl,
    hclosing]
  rfl

lemma leftover_strayRequest {l : Linter}
    (hl : l.configuration = (Batch.linterOf {} .empty).configuration) :
    (∃ f, (l.answer strayRequest).2 = .error f) ∧ ∃ x,
      (l.answer strayRequest).1.reports = l.reports ++ [x] := by
  obtain ⟨x, f, hread⟩ := read_strayRequest
  have hreports : (l.answer strayRequest).1.reports =
      l.reports ++ l.configuration.leftover strayRequest.source none none := reports_lint l _ _ _
  rw [(answer_eq l strayRequest).2, hreports, hl]
  have hname : strayRequest.name = none := rfl
  have hfilename : strayRequest.filename = none := rfl
  rw [Configuration.lint, Configuration.leftover, hname, hfilename, hread]
  exact ⟨⟨f, rfl⟩, x, rfl⟩

/-- After the same template has failed once, it fails again and leaves its report behind. -/
theorem leftover_of_answer_stray :
    let l : Linter := { (answerAll [strayRequest] (Batch.linterOf {} .empty)).1 with reports := [] }
    ∃ f closed rest x, (l.answer strayRequest).2 = .error f ∧
      (l.answer strayRequest).1.reports = [x] ∧ Leftover l strayRequest f closed rest [x] := by
  intro l
  obtain ⟨left, hleft, -, -, hfailed⟩ :=
    leftover_of_answer {} .empty (fun _ => usualLevels) [strayRequest] [] strayRequest
  obtain ⟨⟨f, hf⟩, x, hx⟩ := leftover_strayRequest (l := l)
    (configuration_answerAll ..)
  obtain rfl : left = [x] := hleft.symm.trans hx
  obtain ⟨closed, rest, hleftover⟩ := hfailed f hf rfl
  exact ⟨f, closed, rest, x, hf, hx, hleftover⟩

/-- A template that fails does leave something behind. -/
theorem reports_answer_stray :
    (∃ f, ((Batch.linterOf {} .empty).answer strayRequest).2 = .error f) ∧
      ((Batch.linterOf {} .empty).answer strayRequest).1.reports ≠
        (Batch.linterOf {} .empty).reports := by
  obtain ⟨hfailed, x, hx⟩ := leftover_strayRequest (l := Batch.linterOf {} .empty) rfl
  refine ⟨hfailed, ?_⟩
  rw [hx]
  simp

end Linter

end TemplateLint
