import TemplateLint.Diagnostic
import TemplateLint.Node.Basic
import TemplateLint.Rule.Failure
import TemplateLint.SourceIndex
import TemplateLint.Text.Utf16

/-!
Sessions: the documents that are being linted. Documents are opened inside one another, and what is
recorded goes to the innermost one.
-/

namespace TemplateLint

/-- What rules can see of a document. -/
structure View where
  filename : String
  index : SourceIndex
  root : Option Node := none
  app : Option String := none

/-- A document with the diagnostics recorded in it and not yet drained. -/
structure Document extends View where
  logs : List Diagnostic := []
  warnings : List Diagnostic := []
  fatals : List Diagnostic := []

namespace Document

def buffer (d : Document) : Severity → List Diagnostic
  | .log => d.logs
  | .warn => d.warnings
  | .fatal => d.fatals

/-- The document with one more diagnostic, in the buffer of its severity. -/
def add (d : Document) (e : Diagnostic) : Document :=
  match e.severity with
  | .log => { d with logs := d.logs ++ [e] }
  | .warn => { d with warnings := d.warnings ++ [e] }
  | .fatal => { d with fatals := d.fatals ++ [e] }

def report (d : Document) : Report := ⟨d.filename, d.logs, d.warnings, d.fatals⟩

/-- The document with empty buffers. -/
def drained (d : Document) : Document := { d with logs := [], warnings := [], fatals := [] }

@[simp] theorem buffer_drained (d : Document) (s : Severity) : d.drained.buffer s = [] := by
  cases s <;> rfl

@[simp] theorem buffer_add (d : Document) (e : Diagnostic) (s : Severity) :
    (d.add e).buffer s = d.buffer s ++ if e.severity = s then [e] else [] := by
  cases h : e.severity <;> cases s <;> simp [add, buffer, h]

/-- A diagnostic on a line of the document. A line that is not in the index is not shown. -/
def diagnostic (d : Document) (rule : String) (severity : Severity) (message : String)
    (line : Option Int) : Diagnostic :=
  match line.filter fun n => d.index.hasLine (some n) with
  | some n =>
    let source := Text.collapsed ((d.index.line? n).getD "")
    ⟨severity, rule, some n, source, d.filename, message⟩
  | none => ⟨severity, rule, none, "", d.filename, message⟩

/-- The fields of a diagnostic that cannot be recorded: a line below the first one, and a message
that is no text or holds half a character. -/
def flaws (line : Option Int) (message : Option String) : List String :=
  (if line.any (· < 1) then ["line"] else []) ++
    (if message.all Text.Utf16.holdsHalf then ["message"] else [])

end Document

structure Session where
  documents : List Document
  /-- The numbers of the open documents, innermost first. -/
  opened : List Nat

namespace Session

def empty : Session := ⟨[], []⟩

/-- The session with one more document, and that document's number. -/
def add (s : Session) (d : Document) : Session × Nat :=
  ({ s with documents := s.documents ++ [d] }, s.documents.length)

def enter (s : Session) (i : Nat) : Session := { s with opened := i :: s.opened }

/-- The session after the innermost document is left. -/
def leave (s : Session) : Session := { s with opened := s.opened.tail }

def active (s : Session) : Bool := !s.opened.isEmpty

/-- The innermost open document. -/
def document? (s : Session) : Option Document := s.opened.head?.bind (s.documents[·]?)

def view? (s : Session) : Option View := s.document?.map (·.toView)

def modifyAt (s : Session) (i : Nat) (f : Document → Document) : Session :=
  { s with documents := s.documents.modify i f }

/-- Records a diagnostic in the innermost open document, or leaves everything as it is. A message
of `none` is one that is no text. -/
def record (s : Session) (rule : String) (severity : Severity) (message : Option String)
    (line : Option Int) : Except Failure (Diagnostic × Session) :=
  match s.opened, s.document? with
  | i :: _, some d =>
    let e := d.diagnostic rule severity (message.getD "") line
    match Document.flaws e.line message with
    | [] => .ok (e, s.modifyAt i (·.add e))
    | fields => .error (.invalid fields)
  | _, _ => .error .noDocument

/-- The report of a document, and the session with that document's buffers emptied. -/
def drain (s : Session) (i : Nat) : Option Report × Session :=
  (s.documents[i]?.map Document.report, s.modifyAt i Document.drained)

end Session

end TemplateLint
