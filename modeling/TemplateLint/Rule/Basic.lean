import TemplateLint.Path
import TemplateLint.Rule.Key
import TemplateLint.Session

/-!
Rules, the callbacks that they register, and what a callback does when it is called. What it does is
a list of acts, which are performed in order up to the first one that fails.
-/

namespace TemplateLint

/-- A node that is entered or left, and the way that leads to it from the root. Equal nodes at
different places are different visits. -/
structure Visit where
  node : Node
  path : List Link

namespace Visit

/-- Whether it is the root of the document. -/
def isRoot (v : Visit) : Bool := v.path.isEmpty

/-- A child with its link, as it is visited below a node. -/
def child (v : Visit) (c : Link × Node) : Visit := ⟨c.2, v.path ++ [c.1]⟩

@[simp] theorem node_child (v : Visit) (c : Link × Node) : (v.child c).node = c.2 := rfl

end Visit

/-- What a rule can note down about a visit or about the document. -/
inductive Observation where
  | visit (label : String) (line : Option Int)
  | source (text : String)
  | comments (ts : List Token)
  | app (name : Option String)
  | filename (name : String)
  | ruleName (name : String)
  | root (label : String) (isVisited : Bool)
  | lineNumber (line : Option Int)
  | surrounding (text : String)
deriving DecidableEq, Repr

/-- An observation with the rule that made it, and the key under which the rule was called. -/
structure Event where
  rule : String
  key : String
  observation : Observation
deriving DecidableEq, Repr

/-- What a callback does. -/
inductive Act where
  /-- Records a diagnostic; a message of `none` is one that is no text. -/
  | record (severity : Severity) (message : Option String) (line : Option Int)
  | note (o : Observation)
  | fail (f : Failure)
deriving DecidableEq, Repr

/-- What is done for a visit, given what can be seen of the document that is linted. -/
abbrev Callback := Option View → Visit → List Act

/-- What creating a rule returns: callbacks by key, some of which may be something else, or
something else altogether. -/
inductive Creation where
  | mapping (entries : List (Json × Option Callback))
  | other

/-- A named supplier of callbacks. -/
structure Rule where
  name : String
  /-- The file that the rule was loaded from. -/
  path : Option Path := none
  /-- What is done before the callbacks are returned. -/
  creating : List Act
  creation : Creation

namespace Rule

/-- How messages refer to the rule. -/
def source (r : Rule) : String :=
  match r.path with
  | some p => p.toString
  | none => r.name

/-- The key under which creating a rule is noted. -/
def creationKey : String := "create"

end Rule

/-- What has come of linting so far. -/
structure Run where
  session : Session
  events : List Event
  log : Log

namespace Run

def start (s : Session) : Run := ⟨s, [], []⟩

def tell (r : Run) (records : Log) : Run := { r with log := r.log ++ records }

def recorded (rule : String) (e : Diagnostic) : Record :=
  ⟨.debug, .context, s!"{rule} recorded {e.severity.label} at line {lineText e.line}"⟩

/-- Performs one act of a rule that was called under a key. -/
def perform (rule key : String) (a : Act) (r : Run) : Except Failure Run :=
  match a with
  | .record severity message line =>
    (r.session.record rule severity message line).map fun (e, session) =>
      { r with session := session, log := r.log ++ [recorded rule e] }
  | .note o => .ok { r with events := r.events ++ [⟨rule, key, o⟩] }
  | .fail f => .error f

/-- Performs acts up to the first one that fails. -/
def performAll (rule key : String) : List Act → Run → Run × Option Failure
  | [], r => (r, none)
  | a :: as, r =>
    match r.perform rule key a with
    | .ok r => performAll rule key as r
    | .error f => (r, some f)

end Run

end TemplateLint
