import TemplateLint.Json.Basic
import TemplateLint.Text.Decimal
import TemplateLint.Text.Quoted
import TemplateLint.Text.Utf16

/-!
Writing JSON. A style says which characters are escaped and where blanks stand; all styles write
the same brackets, commas and colons.
-/

namespace TemplateLint.Json

structure Style where
  /-- Whether characters outside ASCII, and the delete character, are escaped. -/
  ascii : Bool
  /-- Whether a character that holds the place of a half is written as the half. -/
  halves : Bool
  /-- The blanks after an opening bracket and before a closing one, at a depth. -/
  bracketGap : Nat → List Char
  /-- The blanks after a comma, at a depth. -/
  commaGap : Nat → List Char
  /-- The blanks after a colon. -/
  colonGap : List Char

/-- A new line, indented by two spaces per level. -/
def newline (depth : Nat) : List Char := '\n' :: List.replicate (2 * depth) ' '

/-- One member or item a line. -/
def Style.indented (ascii : Bool) : Style := ⟨ascii, true, newline, newline, [' ']⟩

/-- One line, with a space after commas and colons. -/
def Style.spaced (ascii : Bool) : Style := ⟨ascii, true, fun _ => [], fun _ => [' '], [' ']⟩

/-- One line without blanks. -/
def Style.dense (ascii : Bool) : Style := ⟨ascii, true, fun _ => [], fun _ => [], []⟩

/-- The style for texts that hold no halves: every character stands for itself. -/
def Style.whole (st : Style) : Style := { st with halves := false }

/-- The half to be written for a character, if it holds the place of one. -/
def Style.half? (st : Style) (c : Char) : Option Nat :=
  if st.halves then Text.Utf16.half? c else none

/-- The escape of one unit of sixteen bits. -/
def unitEscape (n : Nat) : List Char := '\\' :: 'u' :: Text.Quoted.hex 4 n

def pointEscape (c : Char) : List Char := (Text.Utf16.units c).flatMap unitEscape

def escapeChar (st : Style) (c : Char) : List Char :=
  if c = '"' then ['\\', '"']
  else if c = '\\' then ['\\', '\\']
  else if c = '\n' then ['\\', 'n']
  else if c = '\r' then ['\\', 'r']
  else if c = '\t' then ['\\', 't']
  else if c.toNat = 0x08 then ['\\', 'b']
  else if c.toNat = 0x0C then ['\\', 'f']
  else if c.toNat < 0x20 then unitEscape c.toNat
  else match st.half? c with
    | some n => unitEscape n
    | none => if st.ascii && 0x7F ≤ c.toNat then pointEscape c else [c]

def renderStr (st : Style) (s : String) : List Char :=
  '"' :: s.toList.flatMap (escapeChar st) ++ ['"']

/-- A floating-point number. What is no number, or is infinite, is written as a word. -/
def renderFloat : Double → List Char
  | .nan => "NaN".toList
  | .infinite false => "Infinity".toList
  | .infinite true => "-Infinity".toList
  | x => x.text

mutual

/-- A value at a depth. -/
def renderAt (st : Style) (depth : Nat) : Json → List Char
  | .null => ['n', 'u', 'l', 'l']
  | .bool true => ['t', 'r', 'u', 'e']
  | .bool false => ['f', 'a', 'l', 's', 'e']
  | .int i => Text.Decimal.ofInt i
  | .float x => renderFloat x
  | .str s => renderStr st s
  | .arr [] => ['[', ']']
  | .arr (x :: xs) =>
    '[' :: st.bracketGap (depth + 1) ++ renderAt st (depth + 1) x ++ renderItems st (depth + 1) xs
      ++ st.bracketGap depth ++ [']']
  | .obj [] => [Char.ofNat 0x7B, Char.ofNat 0x7D]
  | .obj ((k, x) :: ms) =>
    Char.ofNat 0x7B :: st.bracketGap (depth + 1) ++ renderStr st k ++ ':' :: st.colonGap
      ++ renderAt st (depth + 1) x ++ renderMembers st (depth + 1) ms
      ++ st.bracketGap depth ++ [Char.ofNat 0x7D]

/-- The items after the first, each behind its comma. -/
def renderItems (st : Style) (depth : Nat) : List Json → List Char
  | [] => []
  | x :: xs => ',' :: st.commaGap depth ++ renderAt st depth x ++ renderItems st depth xs

/-- The members after the first, each behind its comma. -/
def renderMembers (st : Style) (depth : Nat) : List (String × Json) → List Char
  | [] => []
  | (k, x) :: ms =>
    ',' :: st.commaGap depth ++ renderStr st k ++ ':' :: st.colonGap ++ renderAt st depth x
      ++ renderMembers st depth ms

end

def render (st : Style) (j : Json) : String := String.ofList (renderAt st 0 j)

end TemplateLint.Json
