import TemplateLint.Node.Basic

/-!
Categories of nodes. A node belongs to every category one of whose kinds it is, so a single node
usually belongs to several categories at once.

A tree is described by a recursion that goes down as many levels as the stack has room for, and
there is no description of a tree that goes further down. Like that of a walk, the number of levels
is given with each description.
-/

namespace TemplateLint

/-- Category names with the kinds they cover, in the order in which categories are visited. -/
abbrev CategoryTable := List (String × List Kind)

namespace CategoryTable

/-- The categories that rules use unless a table of their own is given. -/
def standard : CategoryTable := [
  ("Node", [.node]),
  ("Root", [.template]),
  ("NodeList", [.template, .output, .tuple, .list, .dict]),
  ("Value", [.const, .templateData, .name, .nsRef]),
  ("Literal", [.const, .templateData]),
  ("Symbol", [.name, .nsRef]),
  ("Group", [.tuple]),
  ("Array", [.list]),
  ("Pair", [.pair]),
  ("Dict", [.dict]),
  ("Output", [.output]),
  ("TemplateData", [.templateData]),
  ("If", [.branch]),
  ("InlineIf", [.condExpr]),
  ("For", [.forLoop]),
  ("Macro", [.macroDef, .callBlock]),
  ("Caller", [.callBlock]),
  ("Import", [.importModule]),
  ("FromImport", [.fromImport]),
  ("FunCall", [.call, .filter]),
  ("Filter", [.filter, .filterBlock]),
  ("KeywordArgs", [.keyword]),
  ("Block", [.block]),
  ("Extends", [.extend]),
  ("Include", [.inclusion]),
  ("Set", [.assign, .assignBlock]),
  ("With", [.withScope]),
  ("LookupVal", [.getattr, .getitem]),
  ("BinOp", [.binExpr]),
  ("Or", [.or]),
  ("And", [.and]),
  ("Not", [.not]),
  ("Add", [.add]),
  ("Sub", [.sub]),
  ("Mul", [.mul]),
  ("Div", [.div]),
  ("FloorDiv", [.floorDiv]),
  ("Mod", [.mod]),
  ("Pow", [.pow]),
  ("Neg", [.neg]),
  ("Pos", [.pos]),
  ("Compare", [.compare]),
  ("CompareOperand", [.operand]),
  ("Test", [.test]),
  ("Concat", [.concat]),
  ("Slice", [.slice]),
  ("CallExtension", [.extensionAttribute])]

def names (t : CategoryTable) : List String := t.map (·.1)

def contains (t : CategoryTable) (name : String) : Bool := t.names.contains name

/-- The table with a category covering the given kinds; a category that is there keeps its place. -/
def put (t : CategoryTable) (name : String) (kinds : List Kind) : CategoryTable :=
  if t.contains name then t.map fun e => if e.1 == name then (name, kinds) else e
  else t ++ [(name, kinds)]

def ofPairs (es : List (String × List Kind)) : CategoryTable :=
  es.foldl (fun t e => t.put e.1 e.2) []

/-- The categories of a kind, in table order. -/
def classify (t : CategoryTable) (k : Kind) : List String :=
  (t.filter fun e => e.2.any k.isA).map (·.1)

end CategoryTable

namespace Node

/-- The nodes that a field holds, each with its place: the field's name, and the position in the
list if the field holds one. -/
def placesIn (name : String) : Field → List (String × Node)
  | .node n => [(name, n)]
  | .list items =>
    items.zipIdx.filterMap fun (f, i) => f.node?.map fun n => (s!"{name}:{i}", n)
  | _ => []

/-- The children of a node with their places, in field order. -/
def places (n : Node) : List (String × Node) :=
  n.namedFields.flatMap fun (name, f) => placesIn name f

/-- One line per node. A node without categories is left out with all that is below it. There are no
lines if a node that is to be described is further down than the given number of levels. -/
def describeAt? (t : CategoryTable) : Nat → String → String → Node → Option (List String)
  | 0, _, _, _ => none
  | levels + 1, indent, place, n =>
    match t.classify n.kind with
    | [] => some []
    | cs =>
      let below := n.places.mapM fun c => describeAt? t levels (indent ++ "  ") c.1 c.2
      below.map fun lines => (indent ++ place ++ ": " ++ ",".intercalate cs) :: lines.flatten

def rootPlace : String := "ROOT"

/-- How a tree is built: one line per node with its place and its categories, indented under the
line of its parent. -/
def describe? (levels : Nat) (n : Node) (t : CategoryTable := .standard)
    (place : String := rootPlace) : Option (List String) :=
  describeAt? t levels "" place n

end Node

end TemplateLint
