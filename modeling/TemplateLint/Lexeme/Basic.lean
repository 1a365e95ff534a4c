import TemplateLint.Text.Lines
import TemplateLint.Token

/-!
Lexemes: what a template is cut into. All lexemes of a template, joined, are the template; those
that are dropped as white space around a tag are lexemes too.
-/

namespace TemplateLint

inductive Lexeme.Kind where
  | data | rawBegin | rawEnd
  | commentBegin | comment | commentEnd
  | blockBegin | blockEnd | variableBegin | variableEnd
  | lineStatementBegin | lineStatementEnd
  | lineCommentBegin | lineComment | lineCommentEnd
  | whitespace | float | integer | name | string | operator
  /-- White space that is dropped next to a tag. -/
  | stripped
deriving DecidableEq, Repr, Inhabited

structure Lexeme where
  kind : Lexeme.Kind
  text : List Char
deriving DecidableEq, Repr, Inhabited

namespace Lexeme

def Kind.label : Kind → String
  | data => "data"
  | rawBegin => "raw_begin"
  | rawEnd => "raw_end"
  | commentBegin => "comment_begin"
  | comment => "comment"
  | commentEnd => "comment_end"
  | blockBegin => "block_begin"
  | blockEnd => "block_end"
  | variableBegin => "variable_begin"
  | variableEnd => "variable_end"
  | lineStatementBegin => "linestatement_begin"
  | lineStatementEnd => "linestatement_end"
  | lineCommentBegin => "linecomment_begin"
  | lineComment => "linecomment"
  | lineCommentEnd => "linecomment_end"
  | whitespace => "whitespace"
  | float => "float"
  | integer => "integer"
  | name => "name"
  | string => "string"
  | operator => "operator"
  | stripped => "stripped"

/-- The kinds of which an empty lexeme is left out. -/
def Kind.isOptional : Kind → Bool
  | data | comment | lineComment | whitespace | stripped => true
  | _ => false

/-- One lexeme, or none if it is empty and says nothing. -/
def ofText (kind : Kind) (text : List Char) : List Lexeme :=
  if kind.isOptional && text.isEmpty then [] else [⟨kind, text⟩]

/-- The text of all lexemes. -/
def textOf (ls : List Lexeme) : List Char := ls.flatMap Lexeme.text

/-- Lexemes with the lines on which they start: a line break moves all that follows it. -/
def place : Nat → List Lexeme → List (Nat × Lexeme)
  | _, [] => []
  | line, l :: ls => (line, l) :: place (line + Text.countBreaks l.text) ls

def toToken (line : Nat) (l : Lexeme) : Token := ⟨line, l.kind.label, String.ofList l.text⟩

/-- The tokens of placed lexemes; what is dropped is no token. -/
def tokens (ls : List (Nat × Lexeme)) : List Token :=
  (ls.filter fun l => l.2.kind != .stripped).map fun l => l.2.toToken l.1

end Lexeme

end TemplateLint
