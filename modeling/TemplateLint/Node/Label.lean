import TemplateLint.Node.Basic
import TemplateLint.Json.Printer
import TemplateLint.Text.Case

/-!
Short labels of nodes: the kind and, where there is one, the name or value that tells the node from
others of its kind.
-/

namespace TemplateLint

mutual

/-- The text of a constant in a list: words are capitalised and texts are quoted. -/
def Json.literal : Json → String
  | .null => "None"
  | .bool true => "True"
  | .bool false => "False"
  | .int i => toString i
  | .float x => String.ofList x.text
  | .str s => Text.quoted s
  | .arr xs => "[" ++ Json.literals xs ++ "]"
  | .obj ms => "\x7b" ++ Json.literalMembers ms ++ "\x7d"

def Json.literals : List Json → String
  | [] => ""
  | [x] => x.literal
  | x :: xs => x.literal ++ ", " ++ Json.literals xs

def Json.literalMembers : List (String × Json) → String
  | [] => ""
  | [(k, x)] => Text.quoted k ++ ": " ++ x.literal
  | (k, x) :: ms => Text.quoted k ++ ": " ++ x.literal ++ ", " ++ Json.literalMembers ms

end

/-- The text of a constant that stands alone: a text is shown as it is. -/
def Json.plain : Json → String
  | .str s => s
  | j => j.literal

namespace Field

mutual

/-- The text of an item of a list. -/
def literal : Field → String
  | .node n => n.kind.label
  | .list items => "[" ++ literals items ++ "]"
  | .value v => v.literal
  | .float t => t

def literals : List Field → String
  | [] => ""
  | [f] => f.literal
  | f :: fs => f.literal ++ ", " ++ literals fs

end

def plain : Field → String
  | .value v => v.plain
  | f => f.literal

/-- The label of a constant with the given value, if it is not an integer too long to write. -/
def constLabel? : Field → Option String
  | .value (.str s) => some ("'" ++ s ++ "'")
  | .value (.int i) =>
    if Text.Decimal.maxDigits < (Text.Decimal.ofNat i.natAbs).length then none
    else some (String.ofList (Text.Decimal.ofInt i))
  | .value (.float _) | .float _ => some "float"
  | f => some (Text.lowered f.literal)

end Field

namespace Node

/-- The names of the fields that can tell a node from others of its kind. -/
def tellingFields : List String := ["op", "attr", "name", "key"]

/-- Why a node has no label. -/
inductive LabelFault where
  /-- A field that the label shows is unset. -/
  | unset (kind : Kind) (field : String)
  | longInteger
deriving DecidableEq, Repr

/-- A field that the label shows. -/
def shown (n : Node) (name : String) : Except LabelFault Field :=
  match n.field? name with
  | some f => .ok f
  | none => .error (.unset n.kind name)

def label (n : Node) : Except LabelFault String :=
  match n.kind with
  | .name => do return "Name:" ++ (← n.shown "name").plain ++ "/" ++ (← n.shown "ctx").plain
  | .nsRef => do return "NSRef:" ++ (← n.shown "name").plain ++ "." ++ (← n.shown "attr").plain
  | .const => do
    match (← n.shown "value").constLabel? with
    | some s => return "Const:" ++ s
    | none => throw .longInteger
  | .templateData => do return "TemplateData:" ++ (← n.shown "data").plain
  | k =>
    match tellingFields.findSome? n.text? with
    | some s => .ok (k.label ++ ":" ++ s)
    | none => .ok k.label

end Node

end TemplateLint
