import TemplateLint.Proofs.Batch.Verdict
import TemplateLint.Proofs.Linter.Transparency
import TemplateLint.Proofs.Progress.Template

/-!
Which templates a batch survives.

Whatever a template holds, its verdict is reports or a fault that the batch writes down, with two
exceptions: a region to be inspected that goes further down than it can be described, and a number
with a point or an exponent that has foreign digits. The lexer takes it for a number, but it has no
value, and nobody is prepared for that. Main statement: `survives`.
-/

namespace TemplateLint

open Grammar (IsForeignFault isForeignNumber)

/-- The faults that a batch writes down: those of the lexemes and of the phrases of a template, a
callback that fails, and a tree that is too deep. The reader's own bound is not among them. -/
inductive Linter.Fault.IsCaught : Linter.Fault → Prop
  | lexical (f : Lexer.Fault) : IsCaught (.lexical f)
  | grammar {f : Grammar.Fault} (h : f.cause.isExpected) (hbound : f.cause ≠ .exhausted) :
    IsCaught (.grammar f)
  | callback (f : Walk.CallbackFault) : IsCaught (.walk (.callback f))
  | tooDeep (visited : Nat) : IsCaught (.walk (.tooDeep visited))

lemma Linter.Fault.IsCaught.isExpected {f : Linter.Fault} (h : f.IsCaught) : f.isExpected := by
  cases h with
  | grammar h => exact h
  | _ => rfl

namespace Configuration

open Linter (Fault)

variable {c : Configuration} {t : RuleTable} {name filename : Option String} {f : Fault}

/-- A complete tree is linted, or a callback fails, or it is too deep. -/
lemma isCaught_of_treeReport (hrules : c.rules = .ok t) {levels : Nat} {root : Node}
    (hroot : root.Complete) {index : SourceIndex}
    (h : c.treeReport levels root index name filename = .error f) : f.IsCaught := by
  simp only [treeReport, hrules] at h
  set w := Lint.viewOf root index (Linter.firstText filename name) c.app
  cases ho : Lint.outcomeOf t levels w root with
  | ok report =>
    rw [ho] at h
    cases h
  | error g =>
    rw [ho] at h
    cases h
    cases g with
    | callback f => exact .callback f
    | tooDeep visited => exact .tooDeep visited
    | unset kind => exact absurd ho (Lint.outcomeOf_ne_unset hroot t levels w kind)

lemma isCaught_of_closings (hraises : c.raises = false) (hrules : c.rules = .ok t) {text : String}
    {rs : List Grammar.Region} (hrs : ∀ r ∈ rs, r.root.Complete)
    (h : (c.closings text name filename rs).2 = some f) :
    f.IsCaught ∨ f = .undescribed ∧ ∃ r ∈ rs, c.Undescribed r := by
  obtain ⟨r, hr, hf⟩ := exists_of_closings_fault h
  obtain ⟨rfl, hundescribed⟩ | ⟨k, hreport⟩ := exists_of_closing_fault hraises hf
  · exact .inr ⟨rfl, r, hr, hundescribed⟩
  unfold regionReport at hreport
  split at hreport
  · cases hreport
    exact .inl (.lexical _)
  · exact .inl (isCaught_of_treeReport hrules (hrs r hr) hreport)

/-- What stops a batch: a number with foreign digits in the text of a template, or a region to be
inspected that cannot be described. -/
def Stops (c : Configuration) (source : String) (f : Fault) : Prop :=
  (∃ g, IsForeignFault c.dialect (c.preprocessed source) g ∧ f = .grammar g) ∨
    (f = .undescribed ∧ ¬c.Describes source)

/-- **A template is linted, or its fault is caught, or it is one of the two that stop a batch.** -/
theorem isCaught_of_lint (hraises : c.raises = false) (hrules : c.rules = .ok t) {source : String}
    (h : c.lint source name filename = .error f) : f.IsCaught ∨ c.Stops source f := by
  have hgrammar : ∀ g : Grammar.Fault, (g.cause.isExpected ∧ g.cause ≠ .exhausted) ∨
      IsForeignFault c.dialect (c.preprocessed source) g → Fault.IsCaught (.grammar g) ∨
        c.Stops source (.grammar g) := by
    rintro g (⟨hexpected, hbound⟩ | hforeign)
    · exact .inl (.grammar hexpected hbound)
    · exact .inr (.inl ⟨g, hforeign, rfl⟩)
  unfold lint at h
  split at h
  · -- the template is not read
    next reports g hread =>
    cases h
    simp only [read] at hread
    split at hread
    · next g hstart =>
      cases hread
      have hbehind := Grammar.Stream.faultBehind_of_start hstart
      exact hgrammar g (Grammar.isExpected_of_faultBehind hbehind)
    · next st hstart =>
      split at hread
      · next a g hclosings =>
        cases hread
        refine (isCaught_of_closings hraises hrules
          (Grammar.complete_readFrom c.extensions st 0).1 (by rw [hclosings])).imp_right ?_
        rintro ⟨rfl, r, hr, hundescribed⟩
        refine .inr ⟨rfl, fun hdescribes => hdescribes r ?_ hundescribed⟩
        rwa [Grammar.read, hstart]
      · cases htree : (Grammar.readFrom c.extensions st).tree with
        | ok n =>
          rw [htree] at hread
          cases hread
        | error g =>
          rw [htree] at hread
          cases hread
          exact hgrammar g (Grammar.isExpected_of_readFrom hstart htree)
  · -- the template is read, and linted as a whole
    next reports tree hread =>
    split at h
    · split at h
      · cases h
        exact .inl (.lexical _)
      · next tokens _ =>
        have htree := (tree_of_read (by rw [hread])).1
        cases hreport : c.treeReport (c.reach none) tree (.ofTokens tokens) name filename with
        | ok report =>
          rw [hreport] at h
          cases h
        | error g =>
          rw [hreport] at h
          cases h
          exact .inl (isCaught_of_treeReport hrules
            ((Grammar.complete_read _ _ _).2 tree htree) hreport)
    · cases h

end Configuration

namespace Batch

/-- The configuration of a batch: its rule table has been made, and no report is raised. -/
lemma configuration_linterOf (s : Settings) (t : RuleTable) (reach : Linter.Reach) :
    (linterOf s t reach).configuration.raises = false ∧
      (linterOf s t reach).configuration.rules = .ok t ∧
      (linterOf s t reach).configuration.dialect = s.dialect ∧
      ∀ source, (linterOf s t reach).configuration.preprocessed source = source :=
  ⟨rfl, rfl, rfl, fun _ => rfl⟩

section

variable {files : FileTree} {base file : Path} {s : Settings} {t : RuleTable}
  {reach : Linter.Reach} {f : Linter.Fault}

lemma isCaught_of_verdict
    (h : verdict files base (linterOf s t reach).configuration file = .error (.inl f)) :
    f.IsCaught ∨ ∃ source, Discovery.readTemplate files file = .ok source ∧
      (linterOf s t reach).configuration.Stops source f := by
  obtain ⟨hraises, hrules, -, -⟩ := configuration_linterOf s t reach
  unfold verdict at h
  split at h
  · cases h
  · next source hsource =>
    cases hlint : (linterOf s t reach).configuration.lint source
        (some ((file.relativeTo? base).getD file).toString) (some file.toString) with
    | ok reports =>
      rw [hlint] at h
      cases h
    | error g =>
      rw [hlint] at h
      cases h
      exact (Configuration.isCaught_of_lint hraises hrules hlint).imp_right
        fun hstops => ⟨source, hsource, hstops⟩

/-- A template has no number with foreign digits in it, and its regions to be inspected can be
described. -/
def Sturdy (files : FileTree) (l : Linter) (file : Path) : Prop :=
  ∀ source, Discovery.readTemplate files file = .ok source →
    (∀ x ∈ (Lexer.lex l.dialect source).lexemes, isForeignNumber x.2 = false) ∧
      l.configuration.Describes source

lemma sturdy_of_regions {l : Linter} {source : String}
    (hsource : Discovery.readTemplate files file = .ok source)
    (hlexemes : (Lexer.lex l.dialect source).lexemes.all fun x => !isForeignNumber x.2)
    (hregions : ∀ r ∈ (Grammar.read l.configuration.dialect l.configuration.extensions
      (l.configuration.preprocessed source)).regions, r.purpose ≠ .inspect) :
    Sturdy files l file := by
  intro source' hsource'
  obtain rfl := Except.ok.inj (hsource.symm.trans hsource')
  exact ⟨fun x hx => by simpa using List.all_eq_true.1 hlexemes x hx,
    fun r hr hundescribed => hregions r hr hundescribed.1⟩

lemma isCaught_of_sturdy (hsturdy : Sturdy files (linterOf s t reach) file)
    (h : verdict files base (linterOf s t reach).configuration file = .error (.inl f)) :
    f.IsCaught := by
  obtain hcaught | ⟨source, hsource, ⟨g, ⟨x, hx, hnumber, -⟩, -⟩ | ⟨-, hnot⟩⟩ :=
    isCaught_of_verdict h
  · exact hcaught
  · rw [(configuration_linterOf s t reach).2.2.2] at hx
    have hown : isForeignNumber x.2 = false := (hsturdy source hsource).1 x hx
    rw [hown] at hnumber
    cases hnumber
  · exact absurd (hsturdy source hsource).2 hnot

end

/-- **A batch survives its templates, up to foreign numbers.** For every file tree, settings, rule
table and list of templates, and however far down a tree can be gone, a template is linted, or it
cannot be decoded, or its fault is caught; otherwise the fault belongs to a number with foreign
digits in its text, or to a region that is too deep to be described. If no template has either of
them then the batch goes to its end, and every template is written down as linted or as failed. -/
theorem survives (files : FileTree) (base : Path) (s : Settings) (t : RuleTable)
    (reach : Linter.Reach) (found : List Path) :
    (∀ file ∈ found, ∀ f, (lintFile files base file (linterOf s t reach)).2 = .error (.inl f) →
      f.IsCaught ∨ ∃ source, Discovery.readTemplate files file = .ok source ∧
        (linterOf s t reach).configuration.Stops source f) ∧
    ((∀ file ∈ found, Sturdy files (linterOf s t reach) file) →
      (∀ file ∈ found, ∀ f, (lintFile files base file (linterOf s t reach)).2 = .error (.inl f) →
        f.IsCaught) ∧
      ∃ r, (lintAll files base found (linterOf s t reach) {}).2 = .ok r ∧
        ∀ file ∈ found, file ∈ r.linted ∨ file ∈ r.failed.map (·.1)) := by
  refine ⟨fun file _ f h => isCaught_of_verdict (by rwa [(lintFile_eq _ _ _ _).2] at h),
    fun hsturdy => ?_⟩
  have hall : ∀ file ∈ found, ∀ f,
      (lintFile files base file (linterOf s t reach)).2 = .error (.inl f) → f.IsCaught := by
    intro file hfile f h
    rw [(lintFile_eq _ _ _ _).2] at h
    exact isCaught_of_sturdy (hsturdy file hfile) h
  have hexpected : ∀ file ∈ found,
      (verdict files base (linterOf s t reach).configuration file).isExpected := by
    intro file hfile
    rw [← (lintFile_eq files base file _).2]
    exact Verdict.isExpected_of_forall fun f hf => (hall file hfile f hf).isExpected
  refine ⟨hall, _, lintAll_of_expected hexpected {}, fun file hfile => ?_⟩
  rw [linted_noteAll, mem_failed_noteAll, List.mem_append, List.mem_filter]
  by_cases hok : (verdict files base (linterOf s t reach).configuration file).isOk
  · exact .inl (.inr ⟨hfile, hok⟩)
  · exact .inr (.inl ⟨hfile, hok⟩)

/-- Two templates with a number in Arabic digits: one with a point, one without. -/
def foreignFiles : FileTree := twoTemplates "\x7b\x7b 1٣.5 \x7d\x7d" "\x7b\x7b 1٣ \x7d\x7d"

lemma readTemplate_foreignFiles :
    Discovery.readTemplate foreignFiles ⟨.here, ["t", "a.html"]⟩ = .ok "\x7b\x7b 1٣.5 \x7d\x7d" ∧
      Discovery.readTemplate foreignFiles ⟨.here, ["t", "b.html"]⟩ =
        .ok "\x7b\x7b 1٣ \x7d\x7d" :=
  readTemplate_twoTemplates (by decide +kernel) (by decide +kernel) []

def integerStream : Grammar.Stream where
  current := ⟨1, .variableBegin, 0⟩
  ahead := [⟨1, .integer 13, 2⟩, ⟨1, .variableEnd, 4⟩]
  fault := none
  bound := 5

lemma regions_foreignInteger :
    (Grammar.read {} [.lint, .inspect] "\x7b\x7b 1٣ \x7d\x7d").regions = [] := by
  have hstart : Grammar.Stream.start {} "\x7b\x7b 1٣ \x7d\x7d" = .ok integerStream := by
    rw [Grammar.Stream.start, Lexer.lex_default]
    decide +kernel
  rw [Grammar.read, hstart]
  decide +kernel

set_option maxRecDepth 20000 in
/-- The batch survives the number without a point. -/
theorem survives_foreignInteger :
    let b : Path := ⟨.here, ["t", "b.html"]⟩
    (∀ file ∈ [b], Sturdy foreignFiles (linterOf {} .empty) file) ∧
    ∃ r, (lintAll foreignFiles ⟨.here, ["t"]⟩ [b] (linterOf {} .empty) {}).2 = .ok r ∧
      (b ∈ r.linted ∨ b ∈ r.failed.map (·.1)) := by
  intro b
  have hlexemes : (Lexer.lex {} "\x7b\x7b 1٣ \x7d\x7d").lexemes.all
      (fun x => !isForeignNumber x.2) = true := by
    rw [Lexer.lex_default]
    decide +kernel
  have hsturdy : ∀ file ∈ [b], Sturdy foreignFiles (linterOf {} .empty) file := by
    intro file hfile
    obtain rfl := List.mem_singleton.1 hfile
    refine sturdy_of_regions readTemplate_foreignFiles.2 hlexemes fun r hr => ?_
    have hnone : r ∈ (Grammar.read {} [.lint, .inspect] "\x7b\x7b 1٣ \x7d\x7d").regions := hr
    rw [regions_foreignInteger] at hnone
    cases hnone
  obtain ⟨-, r, hr, hall⟩ := (survives foreignFiles ⟨.here, ["t"]⟩ {} .empty
    (fun _ => Linter.usualLevels) [b]).2 hsturdy
  exact ⟨hsturdy, r, hr, hall b (List.mem_singleton.2 rfl)⟩

set_option maxRecDepth 20000 in
/-- A number with a point ends the batch: its fault is not caught, and the template behind it is
not linted. -/
theorem lintAll_foreignFiles :
    let a : Path := ⟨.here, ["t", "a.html"]⟩
    let f : Linter.Fault := .grammar ⟨.misread .foreignDigit, 1⟩
    (lintFile foreignFiles ⟨.here, ["t"]⟩ a (linterOf {} .empty)).2 = .error (.inl f) ∧
      ¬f.IsCaught ∧ (lintAll foreignFiles ⟨.here, ["t"]⟩ [a, ⟨.here, ["t", "b.html"]⟩]
        (linterOf {} .empty) {}).2 = .error (.template f) := by
  intro a f
  -- the fault stands behind the first terminal, so it is met when the next one is asked for
  have hstart : Grammar.Stream.start {} "\x7b\x7b 1٣.5 \x7d\x7d" =
      .ok ⟨⟨1, .variableBegin, 0⟩, [], some ⟨.misread .foreignDigit, 1⟩, 3⟩ := by
    rw [Grammar.Stream.start, Lexer.lex_default]
    decide +kernel
  have hlint : ∀ name filename, (linterOf {} .empty).configuration.lint "\x7b\x7b 1٣.5 \x7d\x7d"
      name filename = .error f := by
    intro name filename
    rw [Configuration.lint, Configuration.read_of_start (c := (linterOf {} .empty).configuration)
      hstart]
    rfl
  have hverdict : verdict foreignFiles ⟨.here, ["t"]⟩ (linterOf {} .empty).configuration a =
      .error (.inl f) := by
    rw [verdict, readTemplate_foreignFiles.1]
    dsimp only
    rw [hlint]
    rfl
  have hunexpected : f.isExpected = false := rfl
  refine ⟨by rw [(lintFile_eq _ _ _ _).2, hverdict], fun hcaught => ?_, ?_⟩
  · rw [hcaught.isExpected] at hunexpected
    cases hunexpected
  · have hstep := lintAll_cons foreignFiles ⟨.here, ["t"]⟩ a
      [⟨.here, ["t", "b.html"]⟩] (linterOf {} .empty) {}
    rw [hverdict, if_neg (by simp [Verdict.isExpected, hunexpected])] at hstep
    obtain ⟨g, hg, hrun⟩ := hstep
    cases hg
    exact hrun

end Batch

end TemplateLint
