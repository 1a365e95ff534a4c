import TemplateLint.Log
import TemplateLint.Text.Lines
import TemplateLint.Token

/-!
The source index: the text of a template by lines, put together again from tokens, and the tokens
of a single block.
-/

namespace TemplateLint

/-- Token texts by line number. A text that ends a line keeps its line break, so the texts of all
lines, joined, are the indexed text. -/
structure SourceIndex where
  lines : List (Int × List String)
  comments : List Token
deriving DecidableEq, Repr

namespace SourceIndex

def empty : SourceIndex := ⟨[], []⟩

/-- The lines with one more piece on a line. -/
def addPiece (line : Int) (piece : String) : List (Int × List String) → List (Int × List String)
  | [] => [(line, [piece])]
  | (n, ps) :: ls =>
    if n = line then (n, ps ++ [piece]) :: ls else (n, ps) :: addPiece line piece ls

/-- Adds consecutive pieces on consecutive lines. -/
def addPieces : Int → List String → List (Int × List String) → List (Int × List String)
  | _, [], ls => ls
  | line, p :: ps, ls => addPieces (line + 1) ps (addPiece line p ls)

def addToken (ix : SourceIndex) (t : Token) : SourceIndex where
  lines := addPieces t.line ((Text.pieces t.value.toList).map String.ofList) ix.lines
  comments := if t.isComment then ix.comments ++ [t] else ix.comments

/-- A token that goes over several lines leaves a piece on each of them. -/
def ofTokens (ts : List Token) : SourceIndex := ts.foldl addToken empty

def find? (ix : SourceIndex) (line : Int) : Option (List String) :=
  (ix.lines.find? (·.1 == line)).map (·.2)

def hasLine (ix : SourceIndex) : Option Int → Bool
  | some n => (ix.find? n).isSome
  | none => false

def tokens (ix : SourceIndex) (line : Int) : List String := (ix.find? line).getD []

/-- A text without the line break it ends in. -/
def dropBreak (s : String) : String := String.ofList (Text.dropLastBreak s.toList)

/-- The text of a line without its line break. -/
def line? (ix : SourceIndex) (line : Int) : Option String :=
  (ix.find? line).map fun ps => dropBreak (String.join ps)

/-- The lines by ascending number. -/
def sorted (ix : SourceIndex) : List (Int × List String) :=
  ix.lines.mergeSort fun a b => a.1 ≤ b.1

def firstLine? (ix : SourceIndex) : Option Int := (ix.lines.map (·.1)).min?

def lastLine? (ix : SourceIndex) : Option Int := (ix.lines.map (·.1)).max?

/-- The whole indexed text. -/
def text (ix : SourceIndex) : String := String.join (ix.sorted.map fun l => String.join l.2)

/-- The lines from `count` before to `count` after a line; lines that are not there are skipped.
A negative count is refused. -/
def surrounding? (ix : SourceIndex) (line count : Int) : Option String :=
  if count < 0 then none
  else
    let near := ix.sorted.filter fun l => line - count ≤ l.1 && l.1 ≤ line + count
    some ("\n".intercalate (near.map fun l => dropBreak (String.join l.2)))

end SourceIndex

namespace Block

def opensTag (t : Token) : Bool := t.type == "block_begin" || t.type == "linestatement_begin"

def closesTag (t : Token) : Bool := t.type == "block_end" || t.type == "linestatement_end"

/-- The name of the tag whose opening token stands right before the given tokens. -/
def tagName? : List Token → Option String
  | [] => none
  | t :: ts =>
    if t.type == "whitespace" then tagName? ts
    else if t.type == "name" then some t.value
    else none

/-- Whether `t`, followed by `ts`, opens a tag of the given name. -/
def opensNamed (name : String) (t : Token) (ts : List Token) : Bool :=
  opensTag t && tagName? ts == some name

/-- The `k`-th opening token of a tag, and the tokens after it. -/
def findOpening (name : String) : Nat → List Token → Option (Token × List Token)
  | _, [] => none
  | k, t :: ts =>
    if opensNamed name t ts then
      match k with
      | 0 => some (t, ts)
      | k + 1 => findOpening name k ts
    else findOpening name k ts

/-- The tokens after the end of the tag that the given tokens are in. -/
def afterTag : List Token → List Token
  | [] => []
  | t :: ts => if closesTag t then ts else afterTag ts

/-- The tokens before the tag that closes the innermost of `depth + 1` open blocks of the outermost
kind, if there is one. -/
def upToClosing (beginTag endTag : String) : Nat → List Token → Option (List Token)
  | _, [] => none
  | depth, t :: ts =>
    if opensNamed beginTag t ts then (t :: ·) <$> upToClosing beginTag endTag (depth + 1) ts
    else if opensNamed endTag t ts then
      match depth with
      | 0 => some []
      | depth + 1 => (t :: ·) <$> upToClosing beginTag endTag depth ts
    else (t :: ·) <$> upToClosing beginTag endTag depth ts

/-- What can be missing of a block. -/
inductive Missing where
  | opening (tag : String) (ordinal : Int)
  | closing (beginTag endTag : String) (line : Int)
deriving DecidableEq, Repr

def Missing.message : Missing → String
  | .opening tag ordinal => s!"No '{tag}' tag number {ordinal} in the template"
  | .closing beginTag endTag line =>
    s!"No matching '{endTag}' tag for '{beginTag}' on line {line}"

def Missing.record (m : Missing) : Record := ⟨.warning, .sourceIndex, m.message⟩

/-- The tokens of a block, and what was missing of it. -/
structure Extraction where
  tokens : List Token
  missing : Option Missing
deriving DecidableEq, Repr

/-- The tokens between the opening tag with the given number and its closing tag. Opening tags are
numbered from zero in token order, the nested ones too; nested blocks are balanced. A block that
is never closed goes on to the end. -/
def extract (ts : List Token) (ordinal : Int := 0) (beginTag : String := "lint")
    (endTag : String := "endlint") : Extraction :=
  match (if ordinal < 0 then none else findOpening beginTag ordinal.toNat ts) with
  | none => ⟨[], some (.opening beginTag ordinal)⟩
  | some (opening, rest) =>
    let content := afterTag rest
    match upToClosing beginTag endTag 0 content with
    | some inside => ⟨inside, none⟩
    | none => ⟨content, some (.closing beginTag endTag opening.line)⟩

def Extraction.log (e : Extraction) : Log := e.missing.toList.map Missing.record

end Block

end TemplateLint
