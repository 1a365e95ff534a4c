import TemplateLint.Category
import TemplateLint.Node.Label

/-!
Rule keys: a category, and whether a rule is called when a node of it is entered or when it is left.
-/

namespace TemplateLint

/-- When rules are called for a node: before its children or after them. -/
inductive Phase where
  | enter | exit
deriving DecidableEq, Repr

def Phase.all : List Phase := [.enter, .exit]

def Phase.text : Phase → String
  | .enter => "enter"
  | .exit => "exit"

namespace RuleKey

def exitSuffix : String := ":exit"

/-- The written form of a key. -/
def text (category : String) : Phase → String
  | .enter => category
  | .exit => category ++ exitSuffix

/-- What a text is in front of a suffix that it ends in. -/
def dropSuffix? (suffix cs : List Char) : Option (List Char) :=
  if suffix.isSuffixOf cs then some (cs.take (cs.length - suffix.length)) else none

def split (key : String) : String × Phase :=
  match dropSuffix? exitSuffix.toList key.toList with
  | some cs => (String.ofList cs, .exit)
  | none => (key, .enter)

/-- The category and the phase of a key, if the category is in the table. -/
def parse? (t : CategoryTable) (key : Json) : Option (String × Phase) :=
  match key with
  | .str s =>
    let (category, phase) := split s
    if t.contains category then some (category, phase) else none
  | _ => none

def refusal (key : Json) : String := key.plain ++ " is not an allowed target for a rule"

end RuleKey

end TemplateLint
