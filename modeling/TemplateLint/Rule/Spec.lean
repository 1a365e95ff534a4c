import TemplateLint.Rule.Basic
import TemplateLint.Text.Replace

/-!
A small language for rules: what a rule does under each of its keys, as a list of actions, and how
such rules are written in JSON.
-/

namespace TemplateLint

/-- How a rule fails that asks for a label which a node does not have. -/
def Failure.ofLabel : Node.LabelFault → Failure
  | .unset kind field => .noAttribute kind.label field
  | .longInteger => .longInteger

/-- The line that a diagnostic is recorded on. -/
inductive Subject where
  /-- The line of the visited node. -/
  | visited
  | fixed (line : Option Int)
deriving DecidableEq, Repr

/-- What an action can note down. -/
inductive Query where
  | visit | source | comments | app | filename | ruleName | root | lineNumber
  | surrounding (count : Json)

inductive Action where
  | record (severity : Severity) (message : Option String) (subject : Subject)
  | ask (q : Query)
  | raise (kind : ErrorKind) (text : String)
  /-- Acts only on nodes of one of the kinds and with the given name, where these are given. -/
  | when (kinds : Option (List String)) (name : Option String) (actions : List Action)
  /-- Acts once for each assigned name that is the given one. -/
  | setTarget (name : String) (actions : List Action)

namespace Action

/-- The message with the label and the line of the visited node put in. -/
def fill (label : String) (line : Option Int) (message : String) : String :=
  Text.replaceAll "\x7bline\x7d" (lineText line) (Text.replaceAll "\x7blabel\x7d" label message)

/-- What kind of value a field without a node holds. -/
def holds : Field → String
  | .node n => n.kind.label
  | .list _ => "list"
  | .value .null => "NoneType"
  | .value (.bool _) => "bool"
  | .value (.int _) => "int"
  | .value (.float _) | .float _ => "float"
  | .value (.str _) => "str"
  | .value (.arr _) => "list"
  | .value (.obj _) => "dict"

/-- The names that a node assigns to. -/
def targets (n : Node) : Except Failure (List Node) :=
  match n.field? "target" with
  | none => .error (.noAttribute n.kind.label "target")
  | some (.node t) =>
    .ok (if t.kind = .name then [t] else t.descendants.filter fun d => d.kind = .name)
  | some f => .error (.noAttribute (holds f) "find_all")

/-- What is seen of a document, if one is open. -/
def seen (view : Option View) (f : View → Observation) : List Act :=
  match view with
  | some v => [.note (f v)]
  | none => [.fail .noDocument]

/-- The lines around a line; without a line there are none, whatever the document. -/
def around (view : Option View) (line : Option Int) (count : Json) : List Act :=
  match line with
  | none => [.note (.surrounding "")]
  | some l =>
    match view with
    | none => [.fail .noDocument]
    | some v =>
      match count with
      | .int n => within v l n
      | .bool b => within v l (if b then 1 else 0)
      | .float x =>
        if x.isNegative then [.fail .negativeCount]
        else [.fail (.wrongType "'float' object cannot be interpreted as an integer")]
      | j =>
        [.fail (.wrongType ("'<' not supported between instances of '" ++ holds (.value j) ++
          "' and 'int'"))]
where
  within (v : View) (line count : Int) : List Act :=
    match v.index.surrounding? line count with
    | some s => [.note (.surrounding s)]
    | none => [.fail .negativeCount]

/-- Does something with the label of a node. -/
def labelled (n : Node) (act : String → Act) : Act :=
  match n.label with
  | .ok label => act label
  | .error f => .fail (.ofLabel f)

/-- The acts by which a query is answered. -/
def answer (rule : String) (view : Option View) (v : Visit) : Query → List Act
  | .visit => [labelled v.node fun label => .note (.visit label v.node.line)]
  | .source => seen view fun w => .source w.index.text
  | .comments => seen view fun w => .comments w.index.comments
  | .app => seen view fun w => .app w.app
  | .filename => seen view fun w => .filename w.filename
  | .ruleName => [.note (.ruleName rule)]
  | .root =>
    match view with
    | none => [.fail .noDocument]
    | some w =>
      match w.root with
      | none => [.note (.root "None" v.isRoot)]
      | some root => [labelled root fun label => .note (.root label v.isRoot)]
  | .lineNumber => [.note (.lineNumber v.node.line)]
  | .surrounding count => around view v.node.line count

mutual

/-- The acts of an action for a visit. -/
def acts (rule : String) (view : Option View) (v : Visit) : Action → List Act
  | .record severity message subject =>
    let line := match subject with
      | .visited => v.node.line
      | .fixed line => line
    match message with
    | none => [.record severity none line]
    | some m =>
      [labelled v.node fun label => .record severity (some (fill label v.node.line m)) line]
  | .ask q => answer rule view v q
  | .raise kind text => [.fail (.raised kind text)]
  | .when kinds name actions =>
    if (kinds.all (·.contains v.node.kind.label)) &&
        (name.all fun s => v.node.text? "name" == some s) then
      actsOf rule view v actions
    else []
  | .setTarget name actions =>
    match targets v.node with
    | .error f => [.fail f]
    | .ok ts =>
      let as := actsOf rule view v actions
      (ts.filter fun t => t.text? "name" == some name).flatMap fun _ => as

def actsOf (rule : String) (view : Option View) (v : Visit) : List Action → List Act
  | [] => []
  | a :: as => acts rule view v a ++ actsOf rule view v as

end

end Action

/-- A rule in this language. -/
structure Spec where
  name : String
  /-- What it does under each key; under some keys there may be something else than actions. -/
  handlers : List (Json × Option (List Action))
  creating : List Action
  /-- What it returns instead of its handlers, if it does. -/
  returns : Option Json

namespace Spec

/-- The node on which actions are performed while a rule is created. -/
def creationVisit : Visit := ⟨.mk .const (some 1) [.value (.int 0)], []⟩

/-- How making a mapping fails under a key that is a list or an object. -/
def keyFault? (key : Json) : Option Failure :=
  match key with
  | .arr _ | .obj _ => some (.wrongType ("unhashable type: '" ++ Action.holds (.value key) ++ "'"))
  | _ => none

/-- What fails when the handlers are put under their keys, unless something else is returned. -/
def mappingFault? (s : Spec) : Option Failure :=
  match s.returns with
  | some _ => none
  | none => s.handlers.findSome? fun h => keyFault? h.1

/-- The rule that a specification stands for; it may go by another name. -/
def toRule (s : Spec) (name : String) (path : Option Path := none) : Rule where
  name := name
  path := path
  creating := Action.actsOf name none creationVisit s.creating ++
    s.mappingFault?.toList.map .fail
  creation :=
    match s.returns with
    | some (.obj members) => .mapping (members.map fun (key, _) => (.str key, none))
    | some _ => .other
    | none => .mapping (s.handlers.map fun (key, actions) =>
        (key, actions.map fun as view v => Action.actsOf name view v as))

/-- Puts a handler under a key; a key that is there keeps its place. -/
def put (key : Json) (h : Option (List Action)) :
    List (Json × Option (List Action)) → List (Json × Option (List Action))
  | [] => [(key, h)]
  | (k, g) :: es => if k == key then (k, h) :: es else (k, g) :: put key h es

def subjectOfJson : List Json → Subject
  | [] => .visited
  | j :: _ => .fixed ((j.get? "line").bind Json.count?)

mutual

/-- Reads an action; one that is none says nothing. -/
def actionOfJson : Json → List Action
  | .arr (.str verb :: args) => actionOf verb args
  | _ => []

def actionOf (verb : String) : List Json → List Action
  | [] =>
    match verb with
    | "trace" => [.ask .visit]
    | "source" => [.ask .source]
    | "comments" => [.ask .comments]
    | "app" => [.ask .app]
    | "filename" => [.ask .filename]
    | "rule_name" => [.ask .ruleName]
    | "root" => [.ask .root]
    | "line_number" => [.ask .lineNumber]
    | _ => []
  | [.str kind, .str text] =>
    if verb == "raise" then [.raise (.ofLabel kind) text] else recordOf verb (.str kind) [.str text]
  | [condition, .arr actions] =>
    match verb with
    | "when" =>
      let kinds := (condition.get? "class").bind fun c => c.arr?.map (·.filterMap Json.str?)
      [.when kinds ((condition.get? "name").bind Json.str?) (actionsOfJson actions)]
    | "set_target" => [.setTarget (condition.str?.getD "") (actionsOfJson actions)]
    | _ => recordOf verb condition [.arr actions]
  | [arg] => if verb == "surrounding" then [.ask (.surrounding arg)] else recordOf verb arg []
  | arg :: more => recordOf verb arg more

def actionsOfJson : List Json → List Action
  | [] => []
  | j :: js => actionOfJson j ++ actionsOfJson js

def recordOf (verb : String) (message : Json) (subject : List Json) : List Action :=
  match Severity.ofText? verb with
  | some s => [.record s message.str? (subjectOfJson subject)]
  | none => []

end

/-- Reads the actions of a handler; what is no list is no handler. -/
def handlerOfJson : Json → Option (List Action)
  | .arr actions => some (actionsOfJson actions)
  | _ => none

def entryOfJson : Json → Option (Json × Option (List Action))
  | .arr [key, actions] => some (key, handlerOfJson actions)
  | _ => none

/-- Reads a specification. -/
def ofJson (j : Json) : Spec where
  name := ((j.get? "name").bind Json.str?).getD ""
  handlers := ((((j.get? "on").bind Json.arr?).getD []).filterMap entryOfJson).foldl
    (fun es e => put e.1 e.2 es) []
  creating := actionsOfJson (((j.get? "on_create").bind Json.arr?).getD [])
  returns := j.get? "returns"

end Spec

end TemplateLint
