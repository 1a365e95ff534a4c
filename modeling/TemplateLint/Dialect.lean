/-!
Dialects: how tags, variables and comments are marked in a template, and which blanks around them
count.
-/

namespace TemplateLint

structure Dialect where
  blockStart : String := String.ofList [Char.ofNat 0x7B, '%']
  blockEnd : String := String.ofList ['%', Char.ofNat 0x7D]
  variableStart : String := String.ofList [Char.ofNat 0x7B, Char.ofNat 0x7B]
  variableEnd : String := String.ofList [Char.ofNat 0x7D, Char.ofNat 0x7D]
  commentStart : String := String.ofList [Char.ofNat 0x7B, '#']
  commentEnd : String := String.ofList ['#', Char.ofNat 0x7D]
  /-- What marks a line as a statement. -/
  lineStatement : Option String := none
  /-- What marks the rest of a line as a comment. -/
  lineComment : Option String := none
  /-- Whether the line break after a block tag is part of the tag. -/
  trimBlocks : Bool := false
  /-- Whether the blanks from the start of a line up to a block tag are dropped. -/
  lstripBlocks : Bool := false
  /-- Whether a line break at the end of a template is kept. -/
  keepTrailingNewline : Bool := false
  /-- How line breaks are written in text and in string values. -/
  lineBreak : String := "\n"
deriving DecidableEq, Repr, Inhabited

namespace Dialect

/-- Why no template can be read in a dialect. -/
inductive Flaw where
  | equalStarts
  | badLineBreak
deriving DecidableEq, Repr

def Flaw.message : Flaw → String
  | .equalStarts => "block, variable and comment start strings must be different."
  | .badLineBreak => "'newline_sequence' must be one of '\\n', '\\r\\n', or '\\r'."

def lineBreaks : List String := ["\r", "\r\n", "\n"]

def check (d : Dialect) : Except Flaw Unit :=
  if d.blockStart == d.variableStart || d.variableStart == d.commentStart then .error .equalStarts
  else if !lineBreaks.contains d.lineBreak then .error .badLineBreak
  else .ok ()

end Dialect

end TemplateLint
