/-!
Extensions: tags that a template may use if its reader is told so.
-/

namespace TemplateLint.Grammar

inductive Extension where
  /-- `lint`: a region that is linted. -/
  | lint
  /-- `inspect`: a region whose tree is shown and that leaves nothing in the template. -/
  | inspect
  /-- `do`: an expression for its effect. -/
  | doStatement
  /-- `break` and `continue`. -/
  | loopControls
  /-- `debug`. -/
  | debug
deriving DecidableEq, Repr

namespace Extension

def all : List Extension := [lint, inspect, doStatement, loopControls, debug]

def tags : Extension → List String
  | lint => ["lint"]
  | inspect => ["inspect"]
  | doStatement => ["do"]
  | loopControls => ["break", "continue"]
  | debug => ["debug"]

/-- The extension among the given ones that a tag belongs to. -/
def ofTag? (es : List Extension) (tag : String) : Option Extension :=
  es.find? fun e => e.tags.contains tag

/-- The names by which templates' settings ask for an extension. -/
def names : Extension → List String
  | lint => ["templint.extension.LintExtension"]
  | inspect => ["templint.extension.InspectExtension"]
  | doStatement => ["jinja2.ext.do", "jinja2.ext.ExprStmtExtension"]
  | loopControls => ["jinja2.ext.loopcontrols", "jinja2.ext.LoopControlExtension"]
  | debug => ["jinja2.ext.debug", "jinja2.ext.DebugExtension"]

def ofName? (name : String) : Option Extension := all.find? fun e => e.names.contains name

/-- The identifier that nodes of the `debug` tag carry. -/
def debugIdentifier : String := "jinja2.ext.DebugExtension"

end Extension

end TemplateLint.Grammar
