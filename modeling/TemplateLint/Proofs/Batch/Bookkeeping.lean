import TemplateLint.Proofs.Batch.Survival
import TemplateLint.Proofs.Linter.Portions

/-!
The books of a batch.

Every template is written down once, as linted or as failed, in the order of the batch. The reports
are those of the templates that are linted, each with those of its own portions. What a template
leaves behind that fails after some of its regions have been linted is not among them. Main
statement: `lintAll_books`.
-/

namespace TemplateLint.Batch

/-- What is linted of a file. -/
def portionsOf (files : FileTree) (s : Settings) (t : RuleTable) (reach : Linter.Reach)
    (file : Path) : List Portion :=
  match Discovery.readTemplate files file with
  | .ok source => (linterOf s t reach).configuration.portions source
  | .error _ => []

def titleOf (base file : Path) : Option String :=
  Linter.firstText (some file.toString) (some ((file.relativeTo? base).getD file).toString)

def ownReports (files : FileTree) (base : Path) (s : Settings) (t : RuleTable)
    (reach : Linter.Reach) (file : Path) : List Report :=
  (portionsOf files s t reach file).map (·.report t (titleOf base file) s.app)

variable {files : FileTree} {base : Path} {s : Settings} {t : RuleTable} {reach : Linter.Reach}

/-- The reports of a verdict are those of the portions of the file, each walked to its end. -/
lemma reports_of_verdict {file : Path} {reports : List Report}
    (h : verdict files base (linterOf s t reach).configuration file = .ok reports) :
    (∀ p ∈ portionsOf files s t reach file, (p.trace t (titleOf base file) s.app).fault = none) ∧
      reports = ownReports files base s t reach file ∧
      (s.mode = .template → reports.length = 1) := by
  unfold verdict at h
  unfold ownReports portionsOf
  split at h
  · cases h
  · next source hsource =>
    rw [hsource]
    cases hlint : (linterOf s t reach).configuration.lint source
        (some ((file.relativeTo? base).getD file).toString) (some file.toString) with
    | error f =>
      rw [hlint] at h
      cases h
    | ok reports' =>
      rw [hlint] at h
      cases h
      exact Configuration.reports_of_lint rfl hlint

lemma reports_noteAll_verdict (files : FileTree) (base : Path) (s : Settings) (t : RuleTable)
    (reach : Linter.Reach) (found : List Path) :
    let v := verdict files base (linterOf s t reach).configuration
    (noteAll v found {}).reports =
        (noteAll v found {}).linted.flatMap (ownReports files base s t reach) ∧
      ∀ file ∈ (noteAll v found {}).linted, (∀ p ∈ portionsOf files s t reach file,
        (p.trace t (titleOf base file) s.app).fault = none) ∧
          (s.mode = .template → (ownReports files base s t reach file).length = 1) := by
  intro v
  have hlinted : (noteAll v found {}).linted = found.filter fun file => (v file).isOk :=
    linted_noteAll v found {}
  have hreports : (noteAll v found {}).reports =
      (found.filter fun file => (v file).isOk).flatMap fun file => (v file).reports :=
    reports_noteAll v found {}
  have hown : ∀ file ∈ found.filter fun file => (v file).isOk,
      (v file).reports = ownReports files base s t reach file ∧
        (∀ p ∈ portionsOf files s t reach file,
          (p.trace t (titleOf base file) s.app).fault = none) ∧
        (s.mode = .template → (ownReports files base s t reach file).length = 1) := by
    intro file hfile
    have hok := (List.mem_filter.1 hfile).2
    cases hv : v file with
    | error e =>
      rw [hv] at hok
      cases hok
    | ok reports =>
      obtain ⟨hfaults, rfl, hlength⟩ := reports_of_verdict hv
      exact ⟨rfl, hfaults, hlength⟩
  rw [hreports, hlinted]
  exact ⟨List.flatMap_congr fun file hfile => (hown file hfile).1,
    fun file hfile => (hown file hfile).2⟩

/-- The books of a batch, given the verdict on each template. -/
structure Books (files : FileTree) (base : Path) (s : Settings) (t : RuleTable)
    (reach : Linter.Reach) (v : Path → Verdict) (found : List Path) (r : Results) : Prop where
  linted : r.linted = found.filter fun file => (v file).isOk
  failed : r.failed = found.filterMap fun file => (v file).reason?.map fun reason => (file, reason)
  /-- Every template is written down in one of the two lists. -/
  once : ∀ file ∈ found, Xor (file ∈ r.linted) (file ∈ r.failed.map (·.1))
  /-- The reports are those of the templates that are linted, one template after the other. -/
  reports : r.reports = r.linted.flatMap (ownReports files base s t reach)
  total : r.total = found.length
  /-- In template mode every template that is linted has one report. -/
  whole : s.mode = .template → r.reports.length = r.linted.length

lemma length_verdicts (v : Path → Verdict) (found : List Path) :
    (found.filter fun file => (v file).isOk).length +
      (found.filterMap fun file => (v file).reason?.map fun reason => (file, reason)).length =
        found.length := by
  induction found with
  | nil => rfl
  | cons file found ih =>
    cases hreason : (v file).reason? with
    | none =>
      have hok := Verdict.reason?_eq_none_iff.1 hreason
      simp only [List.filter_cons, hok, if_true, List.filterMap_cons, hreason, Option.map_none,
        List.length_cons]
      omega
    | some reason =>
      have hok : (v file).isOk = false := by
        rw [Bool.eq_false_iff]
        intro hok
        rw [Verdict.reason?_eq_none_iff.2 hok] at hreason
        cases hreason
      simp only [List.filter_cons, hok, Bool.false_eq_true, if_false, List.filterMap_cons, hreason,
        Option.map_some, List.length_cons]
      omega

/-- **The books of a batch are right.** For distinct templates and any verdicts that the batch
expects, every template is linted or fails, in order, and the reports are exactly those of the
portions of the templates that are linted. -/
theorem lintAll_books (files : FileTree) (base : Path) (s : Settings) (t : RuleTable)
    (reach : Linter.Reach) (found : List Path) (hfound : found.Nodup)
    (hexpected : ∀ file ∈ found, ∀ f,
      (lintFile files base file (linterOf s t reach)).2 = .error (.inl f) → f.isExpected) :
    ∃ r, (lintAll files base found (linterOf s t reach) {}).2 = .ok r ∧
      Books files base s t reach (fun file => (lintFile files base file (linterOf s t reach)).2)
        found r := by
  have hverdict : (fun file => (lintFile files base file (linterOf s t reach)).2) =
      verdict files base (linterOf s t reach).configuration := by
    funext file
    exact (lintFile_eq files base file _).2
  simp only [congrFun hverdict] at hexpected
  rw [hverdict]
  set v := verdict files base (linterOf s t reach).configuration
  have hall : ∀ file ∈ found, (v file).isExpected := fun file hfile =>
    Verdict.isExpected_of_forall (hexpected file hfile)
  have hlinted : (noteAll v found {}).linted = found.filter fun file => (v file).isOk :=
    linted_noteAll v found {}
  have hfailed : (noteAll v found {}).failed =
      found.filterMap fun file => (v file).reason?.map fun reason => (file, reason) :=
    failed_noteAll hfound (by simp)
  obtain ⟨hreports, hown⟩ := reports_noteAll_verdict files base s t reach found
  refine ⟨noteAll v found {}, lintAll_of_expected hall {}, hlinted, hfailed, fun file hfile => ?_,
    ?_, ?_, fun hmode => ?_⟩
  · have hnone : file ∉ ({} : Results).failed.map (·.1) := by simp
    rw [hlinted, mem_failed_noteAll, List.mem_filter]
    by_cases hok : (v file).isOk
    · exact .inl ⟨⟨hfile, hok⟩, fun h => h.elim (fun h => h.2 hok) hnone⟩
    · exact .inr ⟨.inl ⟨hfile, hok⟩, fun h => hok h.2⟩
  · exact hreports
  · rw [Results.total, hlinted, hfailed, length_verdicts]
  · rw [hreports, List.length_flatMap,
      List.map_congr_left fun file hfile => (hown file hfile).2 hmode]
    simp [v]

/-- In block mode a template is linted just if its tree is read. -/
lemma isOk_verdict (t : RuleTable) (reach : Linter.Reach) (base : Path) {file : Path}
    {source : String} (hsource : Discovery.readTemplate files file = .ok source)
    (hmode : s.mode = .block) :
    ∃ name filename, (verdict files base (linterOf s t reach).configuration file).isOk =
      ((linterOf s t reach).configuration.read source name filename).2.isOk := by
  refine ⟨some ((file.relativeTo? base).getD file).toString, some file.toString, ?_⟩
  have hnot : ¬(linterOf s t reach).configuration.mode = .template := by
    rw [show (linterOf s t reach).configuration.mode = .block from hmode]
    simp
  simp only [verdict, hsource, Configuration.lint, if_neg hnot]
  rcases (linterOf s t reach).configuration.read source
    (some ((file.relativeTo? base).getD file).toString) (some file.toString) with
      ⟨reports, f | tree⟩ <;> rfl

/-- A template with a block that is closed, and a statement behind it that cannot be read. -/
def brokenSource : String := "{% lint %}{{ x }}{% endlint %}{% if %}"

def brokenStream : Grammar.Stream where
  current := ⟨1, .blockBegin, 0⟩
  ahead := [⟨1, .name "lint", 2⟩, ⟨1, .blockEnd, 4⟩, ⟨1, .variableBegin, 5⟩, ⟨1, .name "x", 7⟩,
    ⟨1, .variableEnd, 9⟩, ⟨1, .blockBegin, 10⟩, ⟨1, .name "endlint", 12⟩, ⟨1, .blockEnd, 14⟩,
    ⟨1, .blockBegin, 15⟩, ⟨1, .name "if", 17⟩, ⟨1, .blockEnd, 19⟩]
  fault := none
  bound := 14

lemma read_brokenSource : (Grammar.read {} [.lint, .inspect] brokenSource).regions.length = 1 ∧
    (Grammar.read {} [.lint, .inspect] brokenSource).regions.all
      (fun r => decide (r.purpose ≠ .inspect)) ∧
    (Grammar.read {} [.lint, .inspect] brokenSource).tree.isOk = false := by
  have hstart : Grammar.Stream.start {} brokenSource = .ok brokenStream := by
    rw [Grammar.Stream.start, Lexer.lex_default]
    decide +kernel
  rw [Grammar.read, hstart]
  decide +kernel

def brokenAndNested (more : List (Path × Content)) : FileTree :=
  twoTemplates brokenSource Linter.nestedSource more

section

variable (more : List (Path × Content))

set_option maxRecDepth 20000 in
lemma readTemplate_brokenAndNested :
    Discovery.readTemplate (brokenAndNested more) ⟨.here, ["t", "a.html"]⟩ = .ok brokenSource ∧
      Discovery.readTemplate (brokenAndNested more) ⟨.here, ["t", "b.html"]⟩ =
        .ok Linter.nestedSource :=
  readTemplate_twoTemplates (by decide +kernel) (by decide +kernel) more

/-- There are no numbers in the two templates, and nothing in them is to be inspected. -/
lemma sturdy_brokenAndNested {l : Linter} (hdialect : l.dialect = {})
    (hextensions : l.extensions = [.lint, .inspect]) (hreplacements : l.replacements = []) :
    ∀ file ∈ [(⟨.here, ["t", "a.html"]⟩ : Path), ⟨.here, ["t", "b.html"]⟩],
      Sturdy (brokenAndNested more) l file := by
  have hbroken : (Lexer.lex {} brokenSource).lexemes.all
      (fun x => !Grammar.isForeignNumber x.2) := by
    rw [Lexer.lex_default]
    decide +kernel
  have hnested : (Lexer.lex {} Linter.nestedSource).lexemes.all
      (fun x => !Grammar.isForeignNumber x.2) := by
    rw [Lexer.lex_default]
    decide +kernel
  have hread : ∀ source, Grammar.read l.configuration.dialect l.configuration.extensions
      (l.configuration.preprocessed source) = Grammar.read {} [.lint, .inspect] source := by
    intro source
    simp [Configuration.preprocessed, Linter.configuration, hdialect, hextensions, hreplacements]
  intro file hfile
  rcases List.mem_pair.1 hfile with rfl | rfl
  · refine sturdy_of_regions (readTemplate_brokenAndNested more).1
      (by rw [hdialect]; exact hbroken) fun r hr => ?_
    rw [hread] at hr
    exact of_decide_eq_true (List.all_eq_true.1 read_brokenSource.2.1 r hr)
  · refine sturdy_of_regions (readTemplate_brokenAndNested more).2
      (by rw [hdialect]; exact hnested) fun r hr => ?_
    rw [hread, Linter.grammar_nestedSource, Linter.regions_nestedStream] at hr
    rcases List.mem_pair.1 hr with rfl | rfl <;> simp

variable (hdialect : s.dialect = {}) (hextensions : s.extensions = []) (hmode : s.mode = .block)

include hdialect hextensions hmode

lemma isOk_verdict_broken (base : Path) : (verdict (brokenAndNested more) base
    (linterOf s t reach).configuration ⟨.here, ["t", "a.html"]⟩).isOk = false := by
  obtain ⟨name, filename, hok⟩ := isOk_verdict t reach base
    (readTemplate_brokenAndNested more).1 hmode
  obtain ⟨f, hbroken⟩ := exists_eq_error read_brokenSource.2.2
  have hdialect' : (linterOf s t reach).configuration.dialect = {} := hdialect
  have hextensions' : (linterOf s t reach).configuration.extensions = [.lint, .inspect] := by
    simp [linterOf, Linter.configuration, hextensions]
  rw [hok, Bool.eq_false_iff]
  intro hread
  obtain ⟨n, hn⟩ := exists_eq_ok hread
  have htree := (Configuration.tree_of_read hn).1
  rw [(configuration_linterOf s t reach).2.2.2, hdialect', hextensions', hbroken] at htree
  cases htree

lemma isOk_verdict_nested (base : Path)
    (hwalk : ∀ r ∈ Linter.nestedRegions, ∀ w, (Lint.outcomeOf t (reach (some r)) w r.root).isOk) :
    (verdict (brokenAndNested more) base (linterOf s t reach).configuration
      ⟨.here, ["t", "b.html"]⟩).isOk := by
  obtain ⟨name, filename, hok⟩ := isOk_verdict t reach base
    (readTemplate_brokenAndNested more).2 hmode
  have hextensions' : (linterOf s t reach).extensions = [.lint, .inspect] := by
    simp [linterOf, hextensions]
  obtain ⟨n, hn⟩ := Linter.read_nestedSource (l := linterOf s t reach) rfl rfl hdialect
    hextensions' rfl hwalk name filename
  rw [hok, ← (Linter.read_eq _ _ _ _).2.2, hn]
  rfl

end

/-- The broken template is written down as failed, although its block has been closed, and all
reports are those of the nest behind it. -/
theorem lintAll_books_broken :
    let a : Path := ⟨.here, ["t", "a.html"]⟩
    let b : Path := ⟨.here, ["t", "b.html"]⟩
    let l := linterOf {} Linter.outputTable
    [a, b].Nodup ∧
    (∀ file ∈ [a, b], ∀ f, (lintFile (brokenAndNested []) ⟨.here, ["t"]⟩ file l).2 =
      .error (.inl f) → f.isExpected) ∧
    (Grammar.read {} [.lint, .inspect] brokenSource).regions.length = 1 ∧
    ∃ r, (lintAll (brokenAndNested []) ⟨.here, ["t"]⟩ [a, b] l {}).2 = .ok r ∧ r.linted = [b] ∧
      a ∈ r.failed.map (·.1) ∧
      r.reports = ownReports (brokenAndNested []) ⟨.here, ["t"]⟩ {} Linter.outputTable
        (fun _ => Linter.usualLevels) b := by
  intro a b l
  have hnodup : [a, b].Nodup := by decide
  have hexpected : ∀ file ∈ [a, b], ∀ f, (lintFile (brokenAndNested []) ⟨.here, ["t"]⟩ file l).2 =
      .error (.inl f) → f.isExpected := by
    intro file hfile f h
    rw [(lintFile_eq _ _ _ _).2] at h
    exact (isCaught_of_sturdy (sturdy_brokenAndNested [] rfl rfl rfl file hfile) h).isExpected
  have hbroken : (lintFile (brokenAndNested []) ⟨.here, ["t"]⟩ a l).2.isOk = false := by
    rw [(lintFile_eq _ _ _ _).2]
    exact isOk_verdict_broken [] rfl rfl rfl _
  have hnested : (lintFile (brokenAndNested []) ⟨.here, ["t"]⟩ b l).2.isOk := by
    rw [(lintFile_eq _ _ _ _).2]
    exact isOk_verdict_nested [] rfl rfl rfl _ Linter.isOk_outputTable
  obtain ⟨r, hr, hbooks⟩ := lintAll_books (brokenAndNested []) ⟨.here, ["t"]⟩ {} Linter.outputTable
    (fun _ => Linter.usualLevels) [a, b] hnodup hexpected
  have hlinted : r.linted = [b] := by
    rw [hbooks.linted]
    simp only [List.filter_cons, List.filter_nil]
    rw [if_neg (ne_true_of_eq_false hbroken), if_pos hnested]
  have hfailed : a ∈ r.failed.map (·.1) := by
    rcases hbooks.once a List.mem_cons_self with ⟨hmem, -⟩ | ⟨hmem, -⟩
    · rw [hlinted] at hmem
      exact absurd hmem (by decide)
    · exact hmem
  exact ⟨hnodup, hexpected, read_brokenSource.1, r, hr, hlinted, hfailed, by
    rw [hbooks.reports, hlinted, List.flatMap_singleton]⟩

end TemplateLint.Batch
