import TemplateLint.Grammar.Terminal
import TemplateLint.Node.Kind

/-!
Why a template cannot be parsed.
-/

namespace TemplateLint.Grammar

/-- What the parser was looking for when it came to a tag that does not fit, or to the end. -/
structure Search where
  /-- The innermost tag that is open. -/
  openTag : Option String
  /-- The tags that would close or continue the open ones, innermost first. -/
  ends : List (List String)
deriving DecidableEq, Repr

inductive Cause where
  | lexical (f : Lexer.Flaw)
  | misread (m : Misread)
  | expected (w : Wanted) (found : Shape)
  | unexpected (found : Shape)
  | noExpression (found : Shape)
  | noTagName
  | unknownTag (tag : String) (s : Search)
  | unfinished (s : Search)
  | notAssignable (k : Kind)
  | badCall
  | badSubscript
  | chainedTests
  | defaultOrder
  | noCall
  | hyphenInName
  | contentInRequired
  | hiddenName
  | stray
  /-- The template is nested more deeply than it is long. -/
  | exhausted
deriving DecidableEq, Repr

/-- Whether a name stands for something that a template may not do, rather than for a mistake in
its form. -/
def Cause.isAssertion : Cause → Bool
  | .hiddenName => true
  | _ => false

/-- Whether a template can be expected to have this fault, so that others are read after it. -/
def Cause.isExpected : Cause → Bool
  | .stray => false
  | .misread (.foreignStart _) | .misread .leadingZeros | .misread .foreignDigit => false
  | _ => true

def alternatives (tags : List String) : String := " or ".intercalate (tags.map Text.quoted)

/-- What the parser was looking for, as far as it was looking for anything. -/
def Search.hint (s : Search) (tag : Option String) : List String :=
  (match s.ends with
    | [] => []
    | inner :: _ =>
      if tag.any fun t => s.ends.any (·.contains t) then
        ["You probably made a nesting mistake. Jinja is expecting this tag, but currently " ++
          s!"looking for {alternatives inner}."]
      else [s!"Jinja was looking for the following tags: {alternatives inner}."]) ++
  (match s.openTag with
    | some t => [s!"The innermost block that needs to be closed is {Text.quoted t}."]
    | none => [])

def Cause.message : Cause → String
  | .lexical f => f.message
  | .misread m => m.message
  | .expected w .finish => s!"unexpected end of template, expected {Text.quoted w.describe}."
  | .expected w found =>
    s!"expected token {Text.quoted w.describe}, got {Text.quoted found.describe}"
  | .unexpected found => s!"unexpected {Text.quoted found.describe}"
  | .noExpression found => s!"Expected an expression, got {Text.quoted found.describe}"
  | .noTagName => "tag name expected"
  | .unknownTag tag s =>
    " ".intercalate (s!"Encountered unknown tag {Text.quoted tag}." :: s.hint (some tag))
  | .unfinished s => " ".intercalate ("Unexpected end of template." :: s.hint none)
  | .notAssignable k => s!"can't assign to {Text.quoted k.lowerLabel}"
  | .badCall => "invalid syntax for function call expression"
  | .badSubscript => "expected name or number"
  | .chainedTests => "You cannot chain multiple tests with is"
  | .defaultOrder => "non-default argument follows default argument"
  | .noCall => "expected call"
  | .hyphenInName => "Block names in Jinja have to be valid Python identifiers and may not " ++
      "contain hyphens, use an underscore instead."
  | .contentInRequired => "Required blocks can only contain comments or whitespace"
  | .hiddenName => "names starting with an underline can not be imported"
  | .stray => "internal parsing error"
  | .exhausted => "the template is nested too deeply"

/-- A cause and the line on which it shows. -/
structure Fault where
  cause : Cause
  line : Nat
deriving DecidableEq, Repr

def Fault.message (f : Fault) : String := f.cause.message

end TemplateLint.Grammar
