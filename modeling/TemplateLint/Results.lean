import TemplateLint.Diagnostic
import TemplateLint.Path

/-!
The results of a run: the reports, the templates that were linted, and those that could not be.
-/

namespace TemplateLint

structure Results where
  reports : List Report := []
  linted : List Path := []
  /-- The templates that could not be linted, with the reasons. -/
  failed : List (Path × String) := []
deriving Repr

namespace Results

def total (r : Results) : Nat := r.linted.length + r.failed.length

/-- The worst status of all reports. -/
def status (r : Results) : Status := r.reports.foldl (fun worst x => worst.worse x.status) .passed

/-- How many reports have a status. -/
def count (r : Results) (s : Status) : Nat := (r.reports.filter fun x => x.status == s).length

def diagnostics (r : Results) : List Diagnostic := r.reports.flatMap Report.diagnostics

/-- The results with a template that could not be linted. The last reason for a path stands, at the
place of the first. -/
def fail (r : Results) (p : Path) (reason : String) : Results :=
  if r.failed.any (·.1 == p) then
    { r with failed := r.failed.map fun e => if e.1 == p then (p, reason) else e }
  else { r with failed := r.failed ++ [(p, reason)] }

/-- The results with a template that was linted. -/
def pass (r : Results) (p : Path) (reports : List Report) : Results :=
  { r with linted := r.linted ++ [p], reports := r.reports ++ reports }

/-- Zero when everything passed, 1 for warnings, 2 for fatal entries or templates that could not be
linted. -/
def exitCode (r : Results) : Nat := if r.failed.isEmpty then r.status.rank else Status.fatal.rank

end Results

end TemplateLint
