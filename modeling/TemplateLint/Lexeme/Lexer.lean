import TemplateLint.Dialect
import TemplateLint.Lexeme.Basic
import TemplateLint.Lexeme.Scan
import TemplateLint.Text.Quoted

/-!
Cutting a template into lexemes.

Outside of tags the lexer looks for the first mark that opens something. Inside of a tag it takes
the first of end mark, white space, number, name, string and operator that fits; the end mark is
passed over as long as a bracket is open.
-/

namespace TemplateLint.Lexer

inductive Mode where
  | root | comment | block | variable | raw | lineStatement | lineComment
deriving DecidableEq, Repr, Inhabited

/-- What the lexer remembers of the text that it has gone through. -/
structure State where
  mode : Mode
  /-- The brackets that have to be closed, innermost first. -/
  brackets : List Char
  /-- The character before the rest of the text. -/
  prev : Option Char
  /-- Whether the text recognised last ended in a line break, or there was none. -/
  lineStart : Bool
deriving DecidableEq, Repr, Inhabited

def State.start : State := ⟨.root, [], none, true⟩

inductive Flaw where
  | openRaw
  | openComment
  | bracket (found : Char) (expected : Option Char)
  | character (c : Char) (position : Nat)
  /-- The lexer went round without getting on. -/
  | stuck
deriving DecidableEq, Repr

def Flaw.message : Flaw → String
  | .openRaw => "Missing end of raw directive"
  | .openComment => "Missing end of comment tag"
  | .bracket found none => s!"unexpected '{found}'"
  | .bracket found (some expected) => s!"unexpected '{found}', expected '{expected}'"
  | .character c position => s!"unexpected char {Text.quoted c.toString} at {position}"
  | .stuck => "the template cannot be read"

/-- White-space control next to a tag. -/
inductive Control where
  | none | strip | keep
deriving DecidableEq, Repr

/-- The minus or plus sign behind a mark. -/
def control : List Char → Control × List Char × List Char
  | '-' :: cs => (.strip, ['-'], cs)
  | '+' :: cs => (.keep, ['+'], cs)
  | cs => (.none, [], cs)

/-- A mark that opens something, and the text after it. -/
structure Mark where
  kind : Lexeme.Kind
  control : Control
  text : List Char
  rest : List Char

def isLineGap (c : Char) : Bool := c == ' ' || c == '\t' || c.toNat == 0x0B

def blanks : Scan := Scan.run Text.isBlank

/-- A line break, if one follows. -/
def lineEnd : Scan := Scan.optional (· == '\n')

variable (d : Dialect)

def blockSuffix : Scan := if d.trimBlocks then lineEnd else fun cs => some ([], cs)

/-- The end of a block tag or a comment: with a plus sign, with a minus sign and the blanks after
it, or bare. -/
def closing (mark : String) : Scan :=
  Scan.orElse (Scan.seq (Scan.literal ['+']) (Scan.literal mark.toList)) <|
  Scan.orElse (Scan.seq (Scan.literal ['-']) (Scan.seq (Scan.literal mark.toList) blanks)) <|
  Scan.seq (Scan.literal mark.toList) (blockSuffix d)

/-- The end of a variable: with a minus sign and the blanks after it, or bare. -/
def variableClosing : Scan :=
  Scan.orElse
    (Scan.seq (Scan.literal ['-']) (Scan.seq (Scan.literal d.variableEnd.toList) blanks))
    (Scan.literal d.variableEnd.toList)

/-- The end of a tag that opens raw text. -/
def rawClosing : Scan :=
  Scan.orElse
    (Scan.seq (Scan.literal ['-']) (Scan.seq (Scan.literal d.blockEnd.toList) blanks))
    (Scan.literal d.blockEnd.toList)

/-- A tag of one word, between the start of a block and the given end. -/
def wordTag (kind : Lexeme.Kind) (word : String) (ending : Scan) (cs : List Char) : Option Mark :=
  match Scan.literal d.blockStart.toList cs with
  | none => none
  | some (t, cs) =>
    let (c, sign, cs) := control cs
    let inside := Scan.runThen Text.isBlank <|
      Scan.seq (Scan.literal word.toList) (Scan.runThen Text.isBlank ending)
    (inside cs).map fun (u, rest) => ⟨kind, c, t ++ sign ++ u, rest⟩

def rawTag : List Char → Option Mark := wordTag d .rawBegin "raw" (rawClosing d)

def endRawTag : List Char → Option Mark := wordTag d .rawEnd "endraw" (closing d d.blockEnd)

/-- A mark with the sign behind it. -/
def signed (kind : Lexeme.Kind) (s : Scan) (cs : List Char) : Option Mark :=
  match s cs with
  | none => none
  | some (t, cs) =>
    let (c, sign, rest) := control cs
    some ⟨kind, c, t ++ sign, rest⟩

/-- Whether a line starts after the given character. -/
def startsLine (prev : Option Char) : Bool := prev.isNone || prev == some '\n'

/-- The marks that the dialect uses: their kinds and texts. Of two that fit, the longer one counts;
of two of one length, the one whose kind comes last in the alphabet. -/
def marks : List (Lexeme.Kind × String) :=
  let all := [(.variableBegin, d.variableStart)] ++
    (d.lineStatement.map ((.lineStatementBegin, ·))).toList ++
    (d.lineComment.map ((.lineCommentBegin, ·))).toList ++
    [(.commentBegin, d.commentStart), (.blockBegin, d.blockStart)]
  all.mergeSort fun a b => b.2.length ≤ a.2.length

/-- A mark of one kind. The mark of a line statement stands first on its line; the mark of a line
comment too, or after something that is not blank. -/
def markOf (prev : Option Char) (cs : List Char) : Lexeme.Kind × String → Option Mark
  | (.lineStatementBegin, mark) =>
    if startsLine prev then
      signed .lineStatementBegin (Scan.runThen isLineGap (Scan.literal mark.toList)) cs
    else none
  | (.lineCommentBegin, mark) =>
    if startsLine prev || prev.any (!Text.isBlank ·) then
      signed .lineCommentBegin (Scan.runThen Text.isInlineBlank (Scan.literal mark.toList)) cs
    else none
  | (kind, mark) => signed kind (Scan.literal mark.toList) cs

/-- The mark that a text starts with. -/
def markAt (prev : Option Char) (cs : List Char) : Option Mark :=
  match rawTag d cs with
  | some m => some m
  | none => (marks d).findSome? (markOf prev cs)

/-- The part of a text after its last line break. -/
def lastLine (cs : List Char) : List Char := (cs.reverse.takeWhile (· != '\n')).reverse

/-- The text before a tag: what is kept of it and the blanks that are dropped. -/
def splitBefore (lineStart : Bool) (kind : Lexeme.Kind) (c : Control) (text : List Char) :
    List Char × List Char :=
  match c with
  | .strip =>
    let kept := Text.trimEnd text
    (kept, text.drop kept.length)
  | .keep => (text, [])
  | .none =>
    let tail := lastLine text
    if d.lstripBlocks && kind != .variableBegin && (text.contains '\n' || lineStart) &&
        tail.all Text.isBlank then
      (text.take (text.length - tail.length), tail)
    else (text, [])

def modeOf : Lexeme.Kind → Mode
  | .rawBegin => .raw
  | .commentBegin => .comment
  | .blockBegin => .block
  | .variableBegin => .variable
  | .lineStatementBegin => .lineStatement
  | .lineCommentBegin => .lineComment
  | _ => .root

/-- One step: the lexemes recognised, the mode and the open brackets after them, and the text that
is left; nothing, at the end of the text; or a flaw. -/
inductive Outcome where
  | step (lexemes : List Lexeme) (mode : Mode) (brackets : List Char) (rest : List Char)
  | done
  | flaw (f : Flaw)

/-- The text before a mark and the mark itself. -/
def beforeAndMark (st : State) (text : List Char) (m : Mark) : List Lexeme :=
  let (kept, dropped) := splitBefore d st.lineStart m.kind m.control text
  Lexeme.ofText .data kept ++ Lexeme.ofText .stripped dropped ++ Lexeme.ofText m.kind m.text

def rootStep (st : State) (cs : List Char) : Outcome :=
  match Scan.findFirst (markAt d) st.prev cs with
  | some (text, m) => .step (beforeAndMark d st text m) (modeOf m.kind) st.brackets m.rest
  | none =>
    match cs with
    | [] => .done
    | cs => .step [⟨.data, cs⟩] .root st.brackets []

def commentStep (st : State) (cs : List Char) : Outcome :=
  match Scan.findFirst (fun _ => closing d d.commentEnd) st.prev cs with
  | some (text, ending, rest) =>
    .step (Lexeme.ofText .comment text ++ [⟨.commentEnd, ending⟩]) .root st.brackets rest
  | none => if cs.isEmpty then .done else .flaw .openComment

def rawStep (st : State) (cs : List Char) : Outcome :=
  match Scan.findFirst (fun _ => endRawTag d) st.prev cs with
  | some (text, m) => .step (beforeAndMark d st text m) .root st.brackets m.rest
  | none => if cs.isEmpty then .done else .flaw .openRaw

def lineCommentStep (st : State) (cs : List Char) : Outcome :=
  .step (Lexeme.ofText .lineComment (cs.takeWhile (· != '\n')) ++ [⟨.lineCommentEnd, []⟩]) .root
    st.brackets (cs.dropWhile (· != '\n'))

/-- The blanks up to the end of a line: all that are left, or those up to the last line break
among them. -/
def lineStatementClosing : Scan := fun cs =>
  let bs := cs.takeWhile Text.isBlank
  if bs.length = cs.length then some (bs, [])
  else if bs.contains '\n' then
    let taken := bs.length - (lastLine bs).length
    some (cs.take taken, cs.drop taken)
  else none

/-- The kind of the end mark of a mode, and the mark. -/
def ending? : Mode → Option (Lexeme.Kind × Scan)
  | .block => some (.blockEnd, closing d d.blockEnd)
  | .variable => some (.variableEnd, variableClosing d)
  | .lineStatement => some (.lineStatementEnd, lineStatementClosing)
  | _ => none

/-- A number with a point or an exponent does not start right after a point. -/
def floatAfter (prev : Option Char) : Scan :=
  if prev == some '.' then fun _ => none else Scan.float

/-- The kinds of lexemes inside of tags in the order in which they are tried. -/
def inside (prev : Option Char) : List (Lexeme.Kind × Scan) := [
  (.whitespace, Scan.run1 Text.isBlank),
  (.float, floatAfter prev),
  (.integer, Scan.integer),
  (.name, Scan.run1 Text.isNamePart),
  (.string, Scan.string),
  (.operator, Scan.operator)]

/-- The bracket that closes an opening one. -/
def closer? (c : Char) : Option Char :=
  if c = '(' then some ')'
  else if c = '[' then some ']'
  else if c = Char.ofNat 0x7B then some (Char.ofNat 0x7D)
  else none

def isCloser (c : Char) : Bool := c == ')' || c == ']' || c == Char.ofNat 0x7D

/-- The brackets that are open after an operator. -/
def bracketsAfter (brackets : List Char) (text : List Char) : Except Flaw (List Char) :=
  match text with
  | [c] =>
    match closer? c with
    | some e => .ok (e :: brackets)
    | none =>
      if isCloser c then
        match brackets with
        | [] => .error (.bracket c none)
        | e :: es => if e = c then .ok es else .error (.bracket c (some e))
      else .ok brackets
  | _ => .ok brackets

def insideStep (st : State) (cs : List Char) (position : Nat) : Outcome :=
  let ended := if st.brackets.isEmpty then
      (ending? d st.mode).bind fun (kind, s) => (s cs).map fun (t, r) => (kind, t, r)
    else none
  match ended with
  | some (kind, t, r) => .step [⟨kind, t⟩] .root st.brackets r
  | none =>
    match (inside st.prev).findSome? fun (kind, s) => (s cs).map fun (t, r) => (kind, t, r) with
    | some (kind, t, r) =>
      match (if kind = .operator then bracketsAfter st.brackets t else .ok st.brackets) with
      | .ok brackets => .step [⟨kind, t⟩] st.mode brackets r
      | .error f => .flaw f
    | none =>
      match cs with
      | [] => .done
      | c :: _ => .flaw (.character c position)

def step (st : State) (cs : List Char) (position : Nat) : Outcome :=
  match st.mode with
  | .root => rootStep d st cs
  | .comment => commentStep d st cs
  | .raw => rawStep d st cs
  | .lineComment => lineCommentStep st cs
  | .block | .variable | .lineStatement => insideStep d st cs position

/-- The state after a text has been recognised. -/
def State.after (st : State) (mode : Mode) (brackets : List Char) (text : List Char) : State where
  mode := mode
  brackets := brackets
  prev := text.getLast? <|> st.prev
  lineStart := text.getLast? == some '\n'

/-- Lexes for at most `rounds` steps. -/
def run : Nat → State → Nat → List Char → List Lexeme × Option Flaw
  | 0, _, _, _ => ([], some .stuck)
  | rounds + 1, st, position, cs =>
    match step d st cs position with
    | .done => ([], none)
    | .flaw f => ([], some f)
    | .step ls mode brackets rest =>
      let text := Lexeme.textOf ls
      let (more, f) := run rounds (st.after mode brackets text) (position + text.length) rest
      (ls ++ more, f)

/-- A flaw and the line on which it shows. -/
structure Fault where
  flaw : Flaw
  line : Nat
deriving DecidableEq, Repr

/-- A template in lexemes with their lines, up to the first flaw. -/
structure Lexing where
  lexemes : List (Nat × Lexeme)
  fault : Option Fault
deriving DecidableEq, Repr

/-- The text that is lexed: line breaks are uniform, and the last one is dropped unless the dialect
keeps it. -/
def normalise (source : String) : List Char :=
  let cs := Text.unifyBreaks source.toList
  if d.keepTrailingNewline then cs else Text.dropLastBreak cs

/-- Lexes a text. A mark takes at least one character, and no two steps in a row take none, so the
number of steps is bounded by twice the length. -/
def lexChars (cs : List Char) : Lexing :=
  let (ls, flaw) := run d (2 * cs.length + 2) .start 0 cs
  ⟨Lexeme.place 1 ls, flaw.map fun f => ⟨f, 1 + Text.countBreaks (Lexeme.textOf ls)⟩⟩

def lex (source : String) : Lexing := lexChars d (normalise d source)

end TemplateLint.Lexer

namespace TemplateLint

/-- The tokens of a template, white space and comments among them. -/
def tokenize (d : Dialect) (source : String) : Except Lexer.Fault (List Token) :=
  let l := Lexer.lex d source
  match l.fault with
  | none => .ok (Lexeme.tokens l.lexemes)
  | some f => .error f

end TemplateLint
