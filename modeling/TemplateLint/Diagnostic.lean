import TemplateLint.Json.Basic
import TemplateLint.Log

/-!
Diagnostics, the reports that hold them and the status that a report ends in.
-/

namespace TemplateLint

/-- Severities, weakest first. -/
inductive Severity where
  | log | warn | fatal
deriving DecidableEq, Repr

namespace Severity

def text : Severity → String
  | .log => "log"
  | .warn => "warn"
  | .fatal => "fatal"

def label : Severity → String
  | .log => "LOG"
  | .warn => "WARN"
  | .fatal => "FATAL"

def ofText? (s : String) : Option Severity := [log, warn, fatal].find? (·.text == s)

end Severity

/-- The outcome of linting a document. -/
inductive Status where
  | passed | warning | fatal
deriving DecidableEq, Repr

namespace Status

def all : List Status := [passed, warning, fatal]

def text : Status → String
  | .passed => "passed"
  | .warning => "warning"
  | .fatal => "fatal"

def rank : Status → Nat
  | .passed => 0
  | .warning => 1
  | .fatal => 2

def failed (s : Status) : Bool := s != .passed

/-- The graver of two outcomes. -/
def worse (a b : Status) : Status := if a.rank < b.rank then b else a

end Status

/-- A line number as text. -/
def lineText : Option Int → String
  | some n => toString n
  | none => "None"

/-- A single event recorded by a rule. -/
structure Diagnostic where
  severity : Severity
  rule : String
  line : Option Int
  source : String
  filename : String
  message : String
deriving DecidableEq, Repr

/-- The diagnostic in one line. -/
def Diagnostic.summary (d : Diagnostic) : String :=
  s!"{d.severity.label}: line {lineText d.line} in {d.filename}, {d.message}"

/-- The diagnostics drained from one linted document. -/
structure Report where
  filename : String
  logs : List Diagnostic
  warnings : List Diagnostic
  fatals : List Diagnostic
deriving DecidableEq, Repr

namespace Report

/-- Fatal entries dominate, warnings come next, log entries never fail a document. -/
def status (r : Report) : Status :=
  if !r.fatals.isEmpty then .fatal
  else if !r.warnings.isEmpty then .warning
  else .passed

def failed (r : Report) : Bool := r.status.failed

/-- The entries that decide the outcome: the fatal ones if there are any, otherwise the warnings. -/
def failures (r : Report) : List Diagnostic := if r.fatals.isEmpty then r.warnings else r.fatals

def diagnostics (r : Report) : List Diagnostic := r.logs ++ r.warnings ++ r.fatals

/-- The summary of an entry with its rule and its line. -/
def announce (d : Diagnostic) : String := s!"{d.rule}: {d.summary}\n{d.source}"

def tell (level : Level) (ds : List Diagnostic) : Log :=
  ds.map fun d => ⟨level, .reporter, announce d⟩

/-- What is told about a report: its log entries, then its fatal entries, or its warnings when
nothing is fatal. -/
def emit (r : Report) : Log :=
  tell .info r.logs ++
    (match r.status with
      | .fatal => tell .error r.fatals
      | .warning => tell .warning r.warnings
      | .passed => []) ++
    [⟨.debug, .reporter, s!"{r.filename}: {r.status.text} ({r.logs.length} log, " ++
      s!"{r.warnings.length} warn, {r.fatals.length} fatal)"⟩]

end Report

end TemplateLint
