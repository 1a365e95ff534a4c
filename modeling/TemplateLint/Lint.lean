import TemplateLint.Walk

/-!
Linting a tree: it is walked as a document of its own, and what was recorded in that document makes
its report.
-/

namespace TemplateLint.Lint

/-- The file name of a document that has none. -/
def defaultFilename : String := "<template>"

def filenameOr (filename : Option String) : String :=
  match filename with
  | some s => if s.isEmpty then defaultFilename else s
  | none => defaultFilename

/-- Walks a tree as a document, which is open meanwhile, and tells how the walk went and which
number the document has. -/
def walkDocument (t : RuleTable) (levels : Nat) (d : Document) (root : Node) (run : Run) :
    Walk.Result × Nat :=
  let (session, i) := run.session.add d
  let r := Walk.walk t levels root { run with session := session.enter i }
  ({ r with run := { r.run with session := r.run.session.leave } }, i)

/-- Tells about a report, and gives back the status that it ends in. -/
def emit (run : Run) (r : Report) : Run × Status := (run.tell r.emit, r.status)

/-- Walks a tree with every rule, as far as the given number of levels goes, drains the report and
tells about it. What is recorded never stops the walk. -/
def tree (t : RuleTable) (levels : Nat) (root : Node) (index : SourceIndex)
    (filename app : Option String) (run : Run) : Run × Except Walk.Fault Report :=
  let d : Document := ⟨⟨filenameOr filename, index, some root, app⟩, [], [], []⟩
  let run := run.tell [⟨.debug, .lint, s!"Linting {d.filename}"⟩]
  let (r, i) := walkDocument t levels d root run
  match r.fault with
  | some f => (r.run, .error f)
  | none =>
    let (report, session) := r.run.session.drain i
    let report := report.getD d.report
    ((emit { r.run with session := session } report).1, .ok report)

end TemplateLint.Lint
