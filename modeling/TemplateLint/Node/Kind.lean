/-!
The kinds of template nodes: their names, their fields and their family tree.
-/

namespace TemplateLint

/-- The kinds of nodes a template is built of, and the families they belong to. -/
inductive Kind where
  | node | stmt | expr | helper | binExpr | unaryExpr | literal
  | template | output | extend | forLoop | branch | macroDef | callBlock | filterBlock | withScope
  | block | inclusion | importModule | fromImport | exprStmt | assign | assignBlock
  | name | nsRef | const | templateData | tuple | list | dict | pair | keyword | condExpr
  | filter | test | call | getitem | getattr | slice | concat | compare | operand
  | mul | div | floorDiv | add | sub | mod | pow | and | or | not | neg | pos
  | environmentAttribute | extensionAttribute | importedName | internalName
  | markSafe | markSafeIfAutoescape | contextReference | derivedContextReference
  | continueLoop | breakLoop | scope | overlayScope | evalContextModifier
  | scopedEvalContextModifier
deriving DecidableEq, Repr, Inhabited

namespace Kind

/-- Every kind, families first. -/
def all : List Kind := [
  node, stmt, expr, helper, binExpr, unaryExpr, literal,
  template, output, extend, forLoop, branch, macroDef, callBlock, filterBlock, withScope,
  block, inclusion, importModule, fromImport, exprStmt, assign, assignBlock,
  name, nsRef, const, templateData, tuple, list, dict, pair, keyword, condExpr,
  filter, test, call, getitem, getattr, slice, concat, compare, operand,
  mul, div, floorDiv, add, sub, mod, pow, and, or, not, neg, pos,
  environmentAttribute, extensionAttribute, importedName, internalName,
  markSafe, markSafeIfAutoescape, contextReference, derivedContextReference,
  continueLoop, breakLoop, scope, overlayScope, evalContextModifier,
  scopedEvalContextModifier]

def label : Kind → String
  | node => "Node" | stmt => "Stmt" | expr => "Expr" | helper => "Helper"
  | binExpr => "BinExpr" | unaryExpr => "UnaryExpr" | literal => "Literal"
  | template => "Template" | output => "Output" | extend => "Extends" | forLoop => "For"
  | branch => "If" | macroDef => "Macro" | callBlock => "CallBlock"
  | filterBlock => "FilterBlock" | withScope => "With" | block => "Block"
  | inclusion => "Include" | importModule => "Import" | fromImport => "FromImport"
  | exprStmt => "ExprStmt" | assign => "Assign" | assignBlock => "AssignBlock"
  | name => "Name" | nsRef => "NSRef" | const => "Const" | templateData => "TemplateData"
  | tuple => "Tuple" | list => "List" | dict => "Dict" | pair => "Pair"
  | keyword => "Keyword" | condExpr => "CondExpr" | filter => "Filter" | test => "Test"
  | call => "Call" | getitem => "Getitem" | getattr => "Getattr" | slice => "Slice"
  | concat => "Concat" | compare => "Compare" | operand => "Operand" | mul => "Mul"
  | div => "Div" | floorDiv => "FloorDiv" | add => "Add" | sub => "Sub" | mod => "Mod"
  | pow => "Pow" | and => "And" | or => "Or" | not => "Not" | neg => "Neg" | pos => "Pos"
  | environmentAttribute => "EnvironmentAttribute"
  | extensionAttribute => "ExtensionAttribute" | importedName => "ImportedName"
  | internalName => "InternalName" | markSafe => "MarkSafe"
  | markSafeIfAutoescape => "MarkSafeIfAutoescape" | contextReference => "ContextReference"
  | derivedContextReference => "DerivedContextReference" | continueLoop => "Continue"
  | breakLoop => "Break" | scope => "Scope" | overlayScope => "OverlayScope"
  | evalContextModifier => "EvalContextModifier"
  | scopedEvalContextModifier => "ScopedEvalContextModifier"

def ofLabel? (s : String) : Option Kind := all.find? (·.label == s)

/-- The family that a kind belongs to directly. -/
def parent? : Kind → Option Kind
  | node => none
  | stmt | expr | helper | template => some node
  | binExpr | unaryExpr | literal => some expr
  | pair | keyword | operand => some helper
  | output | extend | forLoop | branch | macroDef | callBlock | filterBlock | withScope
  | block | inclusion | importModule | fromImport | exprStmt | assign | assignBlock
  | continueLoop | breakLoop | scope | overlayScope | evalContextModifier => some stmt
  | scopedEvalContextModifier => some evalContextModifier
  | const | templateData | tuple | list | dict => some literal
  | mul | div | floorDiv | add | sub | mod | pow | and | or => some binExpr
  | not | neg | pos => some unaryExpr
  | name | nsRef | condExpr | filter | test | call | getitem | getattr | slice | concat
  | compare | environmentAttribute | extensionAttribute | importedName | internalName
  | markSafe | markSafeIfAutoescape | contextReference | derivedContextReference => some expr

/-- The first `n` families above a kind, the kind itself first. -/
def lineage : Nat → Kind → List Kind
  | 0, k => [k]
  | n + 1, k => k :: match k.parent? with
    | some p => lineage n p
    | none => []

/-- A kind and every family above it; the tree is four levels high. -/
def ancestors (k : Kind) : List Kind := lineage 3 k

def isA (k family : Kind) : Bool := k.ancestors.contains family

/-- Whether the kind is a family only, and no node is of it itself. -/
def isFamily : Kind → Bool
  | node | stmt | expr | helper | binExpr | unaryExpr | literal => true
  | _ => false

/-- The names of a kind's fields, in the order in which they are visited. -/
@[simp] def fieldNames : Kind → List String
  | node | stmt | expr | helper => []
  | binExpr | mul | div | floorDiv | add | sub | mod | pow | and | or => ["left", "right"]
  | unaryExpr | not | neg | pos => ["node"]
  | literal => []
  | template => ["body"]
  | output => ["nodes"]
  | extend => ["template"]
  | forLoop => ["target", "iter", "body", "else_", "test", "recursive"]
  | branch => ["test", "body", "elif_", "else_"]
  | macroDef => ["name", "args", "defaults", "body"]
  | callBlock => ["call", "args", "defaults", "body"]
  | filterBlock => ["body", "filter"]
  | withScope => ["targets", "values", "body"]
  | block => ["name", "body", "scoped", "required"]
  | inclusion => ["template", "with_context", "ignore_missing"]
  | importModule => ["template", "target", "with_context"]
  | fromImport => ["template", "names", "with_context"]
  | exprStmt => ["node"]
  | assign => ["target", "node"]
  | assignBlock => ["target", "filter", "body"]
  | name => ["name", "ctx"]
  | nsRef => ["name", "attr"]
  | const => ["value"]
  | templateData => ["data"]
  | tuple => ["items", "ctx"]
  | list => ["items"]
  | dict => ["items"]
  | pair => ["key", "value"]
  | keyword => ["key", "value"]
  | condExpr => ["test", "expr1", "expr2"]
  | filter | test => ["node", "name", "args", "kwargs", "dyn_args", "dyn_kwargs"]
  | call => ["node", "args", "kwargs", "dyn_args", "dyn_kwargs"]
  | getitem => ["node", "arg", "ctx"]
  | getattr => ["node", "attr", "ctx"]
  | slice => ["start", "stop", "step"]
  | concat => ["nodes"]
  | compare => ["expr", "ops"]
  | operand => ["op", "expr"]
  | environmentAttribute => ["name"]
  | extensionAttribute => ["identifier", "name"]
  | importedName => ["importname"]
  | internalName => ["name"]
  | markSafe | markSafeIfAutoescape => ["expr"]
  | contextReference | derivedContextReference | continueLoop | breakLoop => []
  | scope => ["body"]
  | overlayScope => ["context", "body"]
  | evalContextModifier => ["options"]
  | scopedEvalContextModifier => ["options", "body"]

/-- The text in lower case, as messages about a kind of expression show it. -/
def lowerLabel (k : Kind) : String := k.label.map Char.toLower

/-- Every kind is a node. -/
theorem isA_node (k : Kind) : k.isA node = true := by cases k <;> decide

end Kind

end TemplateLint
