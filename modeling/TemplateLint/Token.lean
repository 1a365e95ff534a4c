import TemplateLint.Json.Basic

/-!
Tokens: pieces of template text with the line on which they start.
-/

namespace TemplateLint

/-- A raw token; `type` is the lexer's word for what the text is. -/
structure Token where
  line : Int
  type : String
  value : String
deriving DecidableEq, Repr

def Token.isComment (t : Token) : Bool := t.type == "comment" || t.type == "linecomment"

end TemplateLint
