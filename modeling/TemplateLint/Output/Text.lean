import TemplateLint.Results

/-!
Reports as plain text.
-/

namespace TemplateLint.Output.Text

/-- An entry: its rule, its summary, its source and an empty line. -/
def entry (d : Diagnostic) : String := s!"{d.rule}\n{d.summary}\n{d.source}\n\n"

/-- The entries of a report that are shown: log entries, then the ones that decide its outcome. -/
def shown (r : Report) : List Diagnostic := r.logs ++ r.failures

def report (r : Report) : String := String.join ((shown r).map entry)

def failure (f : Path × String) : String := s!"{f.1}\nERROR: {f.2}\n\n"

/-- Every report, and then every template that could not be linted. -/
def results (r : Results) : String :=
  String.join (r.reports.map report) ++ String.join (r.failed.map failure)

end TemplateLint.Output.Text
