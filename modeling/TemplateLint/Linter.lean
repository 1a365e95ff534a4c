import TemplateLint.Grammar.Statement
import TemplateLint.Lint
import TemplateLint.Rule.Loading

/-!
Linters. A linter reads templates and lints their marked regions while it does so, or lints whole
templates. It keeps its rule table, its reports and its dumps from one template to the next.
-/

namespace TemplateLint

/-- Where a linter takes its rules from. -/
inductive RuleSource where
  | nothing
  | table (t : RuleTable)
  | directory (path : Path)

/-- What is linted. -/
inductive Mode where
  /-- The marked regions of a template. -/
  | block
  /-- Whole templates. -/
  | template
  | nothing
deriving DecidableEq, Repr

/-- How many levels of a tree can be gone down before the stack is used up: in a region, when it is
closed, or (for `none`) in a whole template. It depends on what the stack already holds then, which
is more the further in a region lies, and on the size of the stack. -/
abbrev Linter.Reach := Option Grammar.Region → Nat

/-- Room for as many levels everywhere as there usually is. -/
def Linter.usualLevels : Nat := 960

structure Linter where
  dialect : Dialect := {}
  extensions : List Grammar.Extension := [.lint, .inspect]
  /-- Texts that are replaced in a template before it is read. -/
  replacements : List (String × String) := []
  files : FileTree := .empty
  rules : RuleSource := .nothing
  app : Option String := none
  mode : Mode := .block
  /-- Whether a region with a failing report stops the reading of its template. -/
  raises : Bool := true
  reach : Linter.Reach := fun _ => Linter.usualLevels
  /-- The template that was prepared last. -/
  source : Option String := none
  sourceName : Option String := none
  /-- How many lint tags have been opened since then. -/
  opened : Nat := 0
  /-- The rule table, once it has been resolved. -/
  table : Option RuleTable := none
  reports : List Report := []
  /-- Descriptions of inspected regions. -/
  dumps : List (List String) := []
  run : Run := .start .empty

namespace Linter

/-- A failing report with the place of its region. -/
structure Failed where
  report : Report
  line : Nat
  name : Option String
  filename : Option String

def Failed.message (f : Failed) : String :=
  let label := if f.report.status = .fatal then "fatal" else "warning"
  let entries := "; ".intercalate (f.report.failures.map fun d => s!"{d.rule}: {d.message}")
  s!"Lint {label} in {f.report.filename}: {entries}"

/-- Why a template is not read or linted to the end. -/
inductive Fault where
  | grammar (f : Grammar.Fault)
  | lexical (f : Lexer.Fault)
  | failed (f : Failed)
  | rules (f : ConfigFault)
  | walk (f : Walk.Fault)
  /-- An inspected region goes further down than it can be described. -/
  | undescribed

def Fault.message : Fault → String
  | grammar f => f.message
  | lexical f => f.flaw.message
  | failed f => f.message
  | rules f => f.message
  | walk f => f.message
  | undescribed => "maximum recursion depth exceeded"

def tell (l : Linter) (records : Log) : Linter := { l with run := l.run.tell records }

/-- The first of two texts that says something. -/
def firstText (a b : Option String) : Option String :=
  match a with
  | some s => if s.isEmpty then b else some s
  | none => b

/-- The rule table. It is made on first use; if it cannot be made, the next use tries again. -/
def resolve (l : Linter) : Linter × Except ConfigFault RuleTable :=
  match l.table with
  | some t => (l, .ok t)
  | none =>
    match l.rules with
    | .table t => ({ l with table := some t }, .ok t)
    | .nothing =>
      ({ l with table := some .empty }.tell
        [⟨.warning, .extension, "No rules configured for the lint extension"⟩], .ok .empty)
    | .directory path =>
      let b := RuleTable.ofDirectory l.files path
      let run := { l.run with events := l.run.events ++ b.events, log := l.run.log ++ b.log }
      match b.table with
      | .ok t => ({ l with run := run, table := some t }, .ok t)
      | .error f => ({ l with run := run }, .error f)

/-- Lints a tree with the linter's rules, as far as the given number of levels goes. -/
def lintTree (l : Linter) (levels : Nat) (root : Node) (index : SourceIndex)
    (name filename : Option String) : Linter × Except Fault Report :=
  match l.resolve with
  | (l, .error f) => (l, .error (.rules f))
  | (l, .ok t) =>
    let (run, report) := Lint.tree t levels root index (firstText filename name) l.app l.run
    ({ l with run := run }, report.mapError .walk)

/-- The index of the region with the given number in the prepared template. -/
def regionIndex (l : Linter) (ordinal : Nat) (name : Option String) :
    Linter × Except Fault SourceIndex :=
  match (if l.sourceName = name then l.source else none) with
  | none =>
    (l.tell [⟨.warning, .extension, "Source of " ++ (firstText name none).getD "template" ++
      " is unavailable, snippets will be empty"⟩], .ok .empty)
  | some source =>
    match tokenize l.dialect source with
    | .error f => (l, .error (.lexical f))
    | .ok tokens =>
      let e := Block.extract tokens ordinal
      (l.tell e.log, .ok (.ofTokens e.tokens))

/-- Lints a marked region, and fails if its report does and the linter is to raise that. -/
def lintRegion (l : Linter) (r : Grammar.Region) (ordinal : Nat) (name filename : Option String) :
    Linter × Option Fault :=
  match l.regionIndex ordinal name with
  | (l, .error f) => (l, some f)
  | (l, .ok index) =>
    match l.lintTree (l.reach (some r)) r.root index name filename with
    | (l, .error f) => (l, some f)
    | (l, .ok report) =>
      ({ l with reports := l.reports ++ [report] },
        if report.failed && l.raises then some (.failed ⟨report, r.line, name, filename⟩) else none)

/-- What is done when a region is closed. -/
def closeRegion (l : Linter) (r : Grammar.Region) (name filename : Option String) :
    Linter × Option Fault :=
  let l := { l with opened := r.opened }
  match r.purpose with
  | .lint ordinal => if l.mode = .block then l.lintRegion r ordinal name filename else (l, none)
  | .inspect =>
    match r.root.describe? (l.reach (some r)) with
    | none => (l, some .undescribed)
    | some lines =>
      ({ l with dumps := l.dumps ++ [lines] }.tell (lines.map fun s => ⟨.info, .extension, s⟩),
        none)

/-- Closes regions up to the first one that fails. -/
def closeAll (name filename : Option String) : List Grammar.Region → Linter → Linter × Option Fault
  | [], l => (l, none)
  | r :: rs, l =>
    match l.closeRegion r name filename with
    | (l, none) => closeAll name filename rs l
    | (l, some f) => (l, some f)

/-- The text that is read instead of the template. -/
def preprocessed (l : Linter) (source : String) : String :=
  l.replacements.foldl (fun s r => Text.replaceAll r.1 r.2 s) source

/-- Makes a template the one whose regions are linted. -/
def prepare (l : Linter) (source : String) (name : Option String) : Linter :=
  { l with source := some (l.preprocessed source), sourceName := name, opened := 0 }

/-- Prepares a template and goes to its first terminal. -/
def start (l : Linter) (source : String) (name : Option String) :
    Linter × Except Fault Grammar.Stream :=
  let l := l.prepare source name
  (l, (Grammar.Stream.start l.dialect (l.preprocessed source)).mapError .grammar)

/-- Reads a template from its first terminal on. Regions are closed as they are read, so a region
that fails comes before a fault behind it. -/
def readFrom (l : Linter) (st : Grammar.Stream) (name filename : Option String) :
    Linter × Except Fault Node :=
  let o := Grammar.readFrom l.extensions st l.opened
  match l.closeAll name filename o.regions with
  | (l, some f) => (l, .error f)
  | (l, none) => ({ l with opened := o.opened }, o.tree.mapError .grammar)

/-- Reads a template and lints its regions. -/
def read (l : Linter) (source : String) (name filename : Option String) :
    Linter × Except Fault Node :=
  match l.start source name with
  | (l, .error f) => (l, .error f)
  | (l, .ok st) => l.readFrom st name filename

/-- Lints a template as a whole, after it has been read as `tree`. -/
def lintWhole (l : Linter) (tree : Node) (source : String) (name filename : Option String) :
    Linter × Except Fault Report :=
  let l := l.prepare source name
  match tokenize l.dialect (l.preprocessed source) with
  | .error f => (l, .error (.lexical f))
  | .ok tokens => l.lintTree (l.reach none) tree (.ofTokens tokens) name filename

/-- Lints a template: one report for every lint region, or one for the whole template. -/
def lint (l : Linter) (source : String) (name filename : Option String) :
    Linter × Except Fault (List Report) :=
  let before := l.reports
  match l.read source name filename with
  | (l, .error f) => (l, .error f)
  | (l, .ok tree) =>
    let reports := l.reports.drop before.length
    let l := { l with reports := before }
    if l.mode = .template then
      match l.lintWhole tree source name filename with
      | (l, .error f) => (l, .error f)
      | (l, .ok report) => (l, .ok [report])
    else (l, .ok reports)

end Linter

end TemplateLint
