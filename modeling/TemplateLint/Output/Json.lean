import TemplateLint.Json.Printer
import TemplateLint.Results

/-!
Results as JSON.
-/

namespace TemplateLint.Output.Json

open TemplateLint (Json)

def diagnostic (d : Diagnostic) : Json := .obj [
  ("rule", .str d.rule),
  ("severity", .str d.severity.text),
  ("line", Json.ofOption .int d.line),
  ("filename", .str d.filename),
  ("message", .str d.message),
  ("source", .str d.source)]

def report (r : Report) : Json := .obj [
  ("filename", .str r.filename),
  ("status", .str r.status.text),
  ("logs", .arr (r.logs.map diagnostic)),
  ("warnings", .arr (r.warnings.map diagnostic)),
  ("fatals", .arr (r.fatals.map diagnostic))]

def failure (f : Path × String) : Json := .obj [
  ("file_path", .str f.1.toString),
  ("error", .str f.2)]

def document (r : Results) : Json := .obj [
  ("status", .str r.status.text),
  ("total_files", .int r.total),
  ("linted_files", .int r.linted.length),
  ("failed_files", .int r.failed.length),
  ("reports", .arr (r.reports.map report)),
  ("parse_errors", .arr (r.failed.map failure))]

/-- The text of the results, in ASCII, indented or on one line. -/
def results (r : Results) (pretty : Bool) : String :=
  (document r).render (if pretty then .indented true else .spaced true : Json.Style).whole

end TemplateLint.Output.Json
