import TemplateLint.Discovery
import TemplateLint.Results

/-!
Batches: the templates that are found under a path are linted one after the other. A template that
cannot be linted is recorded with the reason and does not stop the others.
-/

namespace TemplateLint

namespace Linter.Fault

/-- Whether the fault is one of a template, so that the others are still linted. -/
def isExpected : Fault → Bool
  | grammar f => f.cause.isExpected
  | lexical _ | failed _ => true
  | rules _ => false
  | walk (.unset _) => false
  | walk _ => true
  | undescribed => false

/-- The reason that is recorded for a template. -/
def reason : Fault → String
  | walk (.callback f) => s!"{f.message}: {f.cause.message}"
  | f => f.message

end Linter.Fault

namespace Batch

/-- Why nothing is linted, or no more. -/
inductive Fault where
  | rules (f : ConfigFault)
  | discovery (f : Discovery.Fault)
  | dialect (f : Dialect.Flaw)
  | template (f : Linter.Fault)

def Fault.message : Fault → String
  | rules f => f.message
  | discovery f => f.message
  | dialect f => f.message
  | template f => f.message

def activeRules (t : RuleTable) : Log :=
  if t.isEmpty then
    [⟨.warning, .ruleFactory, "No rules configured - templates will not be checked"⟩]
  else
    ⟨.debug, .ruleFactory, "Active rules:"⟩ ::
      t.registered.map fun r => ⟨.debug, .ruleFactory, s!"  {r.rule} (key={r.key})"⟩

/-- The rule table that settings ask for. -/
def tableOf (files : FileTree) (s : Settings) : Building :=
  match s.rulesDir with
  | none =>
    let (events, table) := RuleTable.build []
    ⟨events, (table.toOption.map activeRules).getD [], table⟩
  | some dir =>
    let b := RuleTable.ofDirectory files dir
    let first : Log := ⟨.info, .ruleFactory, s!"Loading rules from directory: {dir}"⟩ :: b.log
    match b.table with
    | .error f =>
      ⟨b.events, first ++ [⟨.error, .ruleFactory, s!"Failed to load rules: {f.message}"⟩],
        .error f⟩
    | .ok t =>
      let loaded : Record :=
        ⟨.info, .ruleFactory, s!"Loaded {t.names.length} rule module(s) from {dir}"⟩
      ⟨b.events, first ++ loaded :: activeRules t, .ok t⟩

/-- A linter that reports failing regions and goes on. -/
def linterOf (s : Settings) (t : RuleTable)
    (reach : Linter.Reach := fun _ => Linter.usualLevels) : Linter where
  dialect := s.dialect
  extensions := [.lint, .inspect] ++ s.extensions.filterMap Grammar.Extension.ofName?
  rules := .table t
  app := s.app
  mode := s.mode
  raises := false
  reach := reach

/-- Reads and lints one template, which goes by its path below the base. What is collected under a
base lies below it, so there is such a path. -/
def lintFile (files : FileTree) (base file : Path) (l : Linter) :
    Linter × Except (Linter.Fault ⊕ String) (List Report) :=
  match Discovery.readTemplate files file with
  | .error reason => (l, .error (.inr reason))
  | .ok source =>
    let name := ((file.relativeTo? base).getD file).toString
    let (l, reports) := l.lint source (some name) (some file.toString)
    (l, reports.mapError .inl)

def failure (file : Path) (reason : String) : Log :=
  [⟨.error, .pipeline, s!"Failed to lint {file}: {reason}"⟩]

/-- Lints templates one after the other. -/
def lintAll (files : FileTree) (base : Path) :
    List Path → Linter → Results → Linter × Except Fault Results
  | [], l, r => (l, .ok r)
  | file :: rest, l, r =>
    match lintFile files base file l with
    | (l, .ok reports) => lintAll files base rest l (r.pass file reports)
    | (l, .error (.inr reason)) =>
      lintAll files base rest (l.tell (failure file reason)) (r.fail file reason)
    | (l, .error (.inl f)) =>
      if f.isExpected then
        lintAll files base rest (l.tell (failure file f.reason)) (r.fail file f.reason)
      else (l, .error (.template f))

/-- What a run leaves behind besides its results. -/
structure Outcome where
  events : List Event
  log : Log
  results : Except Fault Results

def info (message : String) : Record := ⟨.info, .pipeline, message⟩

def emptyReason : String := "Path does not exist or contains no templates"

/-- Lints the templates that have been found. -/
def lintFound (files : FileTree) (s : Settings) (t : RuleTable) (target : Path)
    (found : List Path) (reach : Linter.Reach := fun _ => Linter.usualLevels) : Outcome :=
  match found with
  | [] =>
    ⟨[], [⟨.error, .pipeline, s!"{emptyReason}: {target}"⟩],
      .ok (({} : Results).fail target emptyReason)⟩
  | _ =>
    let stage := info s!"Stage 3/3: Linting {found.length} template(s) in {s.mode.text} mode..."
    match s.dialect.check with
    | .error f => ⟨[], [stage], .error (.dialect f)⟩
    | .ok () =>
      let base := if files.isDirectory target then target else target.parent
      let (l, results) := lintAll files base found (linterOf s t reach) {}
      let done := match results with
        | .error _ => []
        | .ok r => [info (s!"Lint complete: {r.linted.length} linted, {r.failed.length} failed, " ++
            s!"status {r.status.text}")]
      ⟨l.run.events, stage :: l.run.log ++ done, results⟩

/-- Lints a template, or the templates of a directory. -/
def run (files : FileTree) (s : Settings) (target : Path)
    (reach : Linter.Reach := fun _ => Linter.usualLevels) : Outcome :=
  let b := tableOf files s
  let log := info "Stage 1/3: Loading rules..." :: b.log
  match b.table with
  | .error f => ⟨b.events, log, .error (.rules f)⟩
  | .ok t =>
    let (found, more) := (Discovery.collect files s target).run []
    let log := log ++ info "Stage 2/3: Collecting templates..." :: more
    match found with
    | .error f => ⟨b.events, log, .error (.discovery f)⟩
    | .ok found =>
      let o := lintFound files s t target found reach
      ⟨b.events ++ o.events, log ++ o.log, o.results⟩

end Batch

end TemplateLint
