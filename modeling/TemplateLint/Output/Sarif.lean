import TemplateLint.Json.Printer
import TemplateLint.Results

/-!
Results in the Static Analysis Results Interchange Format: a result for every diagnostic, and a
descriptor for every rule that recorded one.
-/

namespace TemplateLint.Output.Sarif

open TemplateLint (Json)

def formatVersion : String := "2.1.0"

def schema : String := "https://json.schemastore.org/sarif-2.1.0.json"

def toolName : String := "templint"

def toolVersion : String := "0.1.0"

def level : Severity → String
  | .log => "note"
  | .warn => "warning"
  | .fatal => "error"

/-- The names in order, each once. -/
def sortedNames (names : List String) : List String := (names.eraseDups).mergeSort

def descriptor (name : String) : Json := .obj [
  ("id", .str name),
  ("name", .str name),
  ("shortDescription", .obj [("text", .str s!"Template lint rule {name}")])]

def driver (names : List String) : Json := .obj [
  ("name", .str toolName),
  ("version", .str toolVersion),
  ("semanticVersion", .str toolVersion),
  ("rules", .arr (names.map descriptor))]

/-- Where a diagnostic is. Line zero is none. -/
def location (d : Diagnostic) : Json :=
  let artifact := Json.obj [("uri", .str d.filename), ("uriBaseId", .str "%SRCROOT%")]
  let region := (d.line.filter (· ≠ 0)).toList.map fun n =>
    ("region", Json.obj [("startLine", .int n), ("startColumn", .int 1)])
  .obj [("physicalLocation", .obj (("artifactLocation", artifact) :: region))]

def result (d : Diagnostic) : Json := .obj [
  ("ruleId", .str d.rule),
  ("level", .str (level d.severity)),
  ("message", .obj [("text", .str d.message)]),
  ("locations", .arr [location d]),
  ("properties", .obj [("severity", .str d.severity.text), ("source", .str d.source)])]

def document (r : Results) : Json :=
  let run := Json.obj [
    ("tool", .obj [("driver", driver (sortedNames (r.diagnostics.map (·.rule))))]),
    ("results", .arr (r.diagnostics.map result))]
  .obj [("version", .str formatVersion), ("$schema", .str schema), ("runs", .arr [run])]

/-- The text of the results, indented or on one line. -/
def results (r : Results) (pretty : Bool) : String :=
  (document r).render (if pretty then .indented false else .dense false : Json.Style).whole

end TemplateLint.Output.Sarif
