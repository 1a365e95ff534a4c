import TemplateLint.Output.Literal
import TemplateLint.Output.Style
import TemplateLint.Text.Columns
import TemplateLint.Text.Emoji
import TemplateLint.Text.Replace
import TemplateLint.Text.Split
import TemplateLint.Text.Word

/-!
Marked-up text: tags in square brackets give it styles, and a backslash before a tag takes its
meaning away. Shown without styles, a text keeps what stands between its tags.

Main statement: the pieces of a text, put together, are the text (`flatten_pieces`).
-/

namespace TemplateLint.Output.Markup

/-- Whether the inside of a tag can start with a character. -/
def startsTag (c : Char) : Bool := ('a' ≤ c && c ≤ 'z') || c == '#' || c == '/' || c == '@'

/-- What comes before the next closing bracket, if no opening one does, and what follows it. -/
def inside? : List Char → Option (List Char × List Char)
  | [] => none
  | c :: cs =>
    if c = ']' then some ([], cs)
    else if c = '[' then none
    else (inside? cs).map fun (i, rest) => (c :: i, rest)

/-- The inside of the tag that a text starts with, and what follows it. -/
def tag? : List Char → Option (List Char × List Char)
  | '[' :: c :: cs =>
    if startsTag c then (inside? cs).map fun (i, rest) => (c :: i, rest) else none
  | _ => none

inductive Piece where
  | text (cs : List Char)
  /-- A tag and the number of backslashes before it. -/
  | tag (backslashes : Nat) (inside : List Char)
deriving DecidableEq, Repr

def bracketed (inside : List Char) : List Char := '[' :: inside ++ [']']

/-- A piece as it is written. -/
def Piece.written : Piece → List Char
  | text cs => cs
  | tag n inside => List.replicate n '\\' ++ bracketed inside

theorem inside?_eq {cs i rest : List Char} (h : inside? cs = some (i, rest)) :
    i ++ ']' :: rest = cs := by
  induction cs generalizing i with
  | nil => simp [inside?] at h
  | cons c cs ih =>
    simp only [inside?] at h
    split at h
    · simp_all
    · split at h
      · simp at h
      · obtain ⟨⟨j, r⟩, hj, he⟩ := Option.map_eq_some_iff.1 h
        simp only [Prod.mk.injEq] at he
        obtain ⟨rfl, rfl⟩ := he
        simp [ih hj]

theorem tag?_eq {cs i rest : List Char} (h : tag? cs = some (i, rest)) :
    bracketed i ++ rest = cs := by
  unfold tag? at h
  split at h
  · split at h
    · obtain ⟨⟨j, r⟩, hj, he⟩ := Option.map_eq_some_iff.1 h
      simp only [Prod.mk.injEq] at he
      obtain ⟨rfl, rfl⟩ := he
      simp [bracketed, ← inside?_eq hj]
    · simp at h
  · simp at h

/-- Puts a character before pieces. -/
def consText (c : Char) : List Piece → List Piece
  | .text cs :: ps => .text (c :: cs) :: ps
  | ps => .text [c] :: ps

/-- Cuts a text into tags and what stands between them; `backslashes` have just been read. -/
def piecesFrom (backslashes : Nat) : List Char → List Piece
  | [] => if backslashes = 0 then [] else [.text (List.replicate backslashes '\\')]
  | c :: cs =>
    if c = '\\' then piecesFrom (backslashes + 1) cs
    else match _h : tag? (c :: cs) with
      | some (inside, rest) => .tag backslashes inside :: piecesFrom 0 rest
      | none => (List.replicate backslashes '\\').foldr consText (consText c (piecesFrom 0 cs))
termination_by cs => cs.length
decreasing_by
  · simp
  · have := congrArg List.length (tag?_eq _h)
    simp only [bracketed, List.length_append, List.length_cons] at this ⊢
    omega
  · simp

def pieces (cs : List Char) : List Piece := piecesFrom 0 cs

@[simp] theorem written_consText (c : Char) (ps : List Piece) :
    (consText c ps).flatMap Piece.written = c :: ps.flatMap Piece.written := by
  cases ps with
  | nil => rfl
  | cons p ps => cases p <;> simp [consText, Piece.written]

theorem written_foldr_consText (cs : List Char) (ps : List Piece) :
    (cs.foldr consText ps).flatMap Piece.written = cs ++ ps.flatMap Piece.written := by
  induction cs with
  | nil => rfl
  | cons c cs ih => simp [ih]

theorem flatten_piecesFrom (n : Nat) (cs : List Char) :
    (piecesFrom n cs).flatMap Piece.written = List.replicate n '\\' ++ cs := by
  fun_induction piecesFrom n cs with
  | case1 => simp
  | case2 n h => simp [Piece.written]
  | case3 n cs ih => simp [ih, List.replicate_succ', List.append_assoc]
  | case4 n c cs hc inside rest h ih =>
    simp [Piece.written, ih, ← tag?_eq h, List.append_assoc]
  | case5 n c cs hc h ih => simp [written_foldr_consText, ih]

theorem flatten_pieces (cs : List Char) : (pieces cs).flatMap Piece.written = cs := by
  simp [pieces, flatten_piecesFrom]

/-- A piece in which no tag has a meaning. -/
def Piece.escaped : Piece → List Char
  | text cs => cs
  | tag n inside => List.replicate (2 * n + 1) '\\' ++ bracketed inside

/-- The text with a backslash at its end doubled, unless there are several. -/
def closeBackslash (cs : List Char) : List Char :=
  match cs.reverse with
  | ['\\'] => cs ++ ['\\']
  | '\\' :: c :: _ => if c = '\\' then cs else cs ++ ['\\']
  | _ => cs

/-- The text in which no tag has a meaning. -/
def escape (s : String) : String :=
  String.ofList (closeBackslash ((pieces s.toList).flatMap Piece.escaped))

/-- Why a text cannot be shown. -/
inductive Fault where
  /-- A tag closes a style that has not been opened. -/
  | unopened (name : String)
  /-- The arguments of an action are no literal. -/
  | badArguments (text : String)
  /-- A share of a colour is no number. -/
  | badColor
deriving DecidableEq, Repr

def Fault.message : Fault → String
  | unopened name => s!"closing tag '[/{name}]' does not match any open tag"
  | badArguments text => s!"error parsing {text}"
  | badColor => "a share of a colour is no number"

/-- The name of a style in its normal form. -/
def styleName (cs : List Char) : Except Fault (List Char) :=
  (Style.normal cs).mapError fun _ => .badColor

/-- A tag that opens a style or an action: its name, and what stands behind an equals sign. -/
structure Tag where
  name : List Char
  parameter : Option (List Char)
deriving DecidableEq, Repr

namespace Tag

/-- The tag with the given inside. -/
def ofInside (inside : List Char) : Except Fault Tag := do
  let name ← styleName (inside.takeWhile (· != '='))
  return ⟨name, (inside.dropWhile (· != '=')).tail?⟩

def isAction (t : Tag) : Bool := t.name.head? == some '@'

/-- The arguments of an action: what stands in brackets behind the name of a handler, none behind
a handler alone, and otherwise the whole parameter. -/
def arguments (parameter : List Char) : List Char :=
  let isHandler (c : Char) : Bool := Text.isWord c || c == '.'
  match parameter.dropWhile isHandler with
  | [] => ['(', ')']
  | '(' :: more =>
    if more.getLast? = some ')' && !more.contains '\n' then '(' :: more else parameter
  | _ => parameter

/-- What is wrong with the parameter of an action. -/
def actionFault? (t : Tag) : Option Fault :=
  match Text.trim (t.parameter.getD []) with
  | [] => none
  | ps =>
    if Literal.isLiteral (arguments ps) then none else some (.badArguments (String.ofList ps))

/-- What is wrong with the style that a part of the text is given. -/
def styleFault? (t : Tag) : Option Fault :=
  let written := match t.parameter with
    | some ps => t.name ++ ' ' :: ps
    | none => t.name
  match Style.read written with
  | .error .noNumber => some .badColor
  | _ => none

end Tag

/-- Text as it is shown: a backslash before an opening bracket is left out, and emoji stand in place
of their names. -/
def shownText (cs : List Char) : List Char :=
  Text.withEmoji (Text.replaceChars ['\\', '['] ['['] cs)

/-- Which of the open tags, innermost first, a closing tag closes. -/
def closes? (opened : List Tag) (closing : List Char) : Except Fault (Option Tag) :=
  match Text.trim closing with
  | [] => .ok opened.head?
  | closing => do
    let name ← styleName closing
    return opened.find? (·.name = name)

/-- Follows a tag, given the tags that are open, innermost first: the tags that are open then, and
the one that has been closed. -/
def follow (opened : List Tag) (inside : List Char) : Except Fault (List Tag × Option Tag) :=
  match inside.takeWhile (· != '=') with
  | '/' :: closing => do
    match ← closes? opened closing with
    | none => throw (.unopened (String.ofList (Text.trim closing)))
    | some t =>
      match if t.isAction then t.actionFault? else none with
      | some f => throw f
      | none => return (opened.eraseP (·.name = t.name), some t)
  | _ => do return ((← Tag.ofInside inside) :: opened, none)

/-- Fails if one of the tags gives a style with a fault. -/
def checkStyles (tags : List Tag) : Except Fault Unit :=
  match tags.findSome? Tag.styleFault? with
  | some f => .error f
  | none => .ok ()

/-- What is shown of pieces, given the tags that are open. Styles are given when all tags have been
followed; a tag that stays open gives its style up to the end. -/
def shownPieces (opened : List Tag) : List Piece → Except Fault (List Char)
  | [] => do
    checkStyles opened
    return []
  | .text cs :: ps => do return shownText cs ++ (← shownPieces opened ps)
  | .tag n inside :: ps => do
    let backslashes := List.replicate (n / 2) '\\'
    if n % 2 = 1 then
      return backslashes ++ shownText (bracketed inside) ++ (← shownPieces opened ps)
    else
      let (opened, closed) ← follow opened inside
      let rest ← shownPieces opened ps
      checkStyles (closed.toList.filter (!·.isAction))
      return backslashes ++ rest

/-- The characters that are never shown: bell, backspace, vertical tab, form feed and carriage
return. -/
def isSilent (c : Char) : Bool := [7, 8, 11, 12, 13].contains c.toNat

/-- A marked-up text as lines without styles, each with a line break. -/
def shown (s : String) : Except Fault String := do
  let cs ← shownPieces [] (pieces s.toList)
  let lines := (Text.split '\n' (cs.filter fun c => !isSilent c)).map Text.expandTabs
  return String.ofList (lines.flatMap (· ++ ['\n']))

end TemplateLint.Output.Markup
