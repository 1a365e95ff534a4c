import TemplateLint.Text.CharName
import TemplateLint.Text.Lines
import TemplateLint.Text.Quoted
import TemplateLint.Text.Utf16

/-!
String literals: the value that the text between the quotes stands for.

A character outside ASCII stands for itself, but is spelt as an escape before the backslashes are
read, so a backslash in front of it is an escaped backslash.
-/

namespace TemplateLint.Text.Escape

inductive Flaw where
  | shortByte
  | shortUnit
  | shortPoint
  | outOfRange
  | malformedName
  | unknownName
deriving DecidableEq, Repr

def Flaw.message : Flaw → String
  | .shortByte => "truncated \\xXX escape"
  | .shortUnit => "truncated \\uXXXX escape"
  | .shortPoint => "truncated \\UXXXXXXXX escape"
  | .outOfRange => "illegal Unicode character"
  | .malformedName => "malformed \\N character escape"
  | .unknownName => "unknown Unicode character name"

/-- The literal in ASCII, every other character by its number. -/
def toAscii (cs : List Char) : List Char :=
  cs.flatMap fun c => if c.toNat < 0x80 then [c] else Quoted.escapeNumber c

def hexValue? (c : Char) : Option Nat :=
  if '0' ≤ c ∧ c ≤ '9' then some (c.toNat - 0x30)
  else if 'a' ≤ c ∧ c ≤ 'f' then some (c.toNat - 0x57)
  else if 'A' ≤ c ∧ c ≤ 'F' then some (c.toNat - 0x37)
  else none

def isOctal (c : Char) : Bool := '0' ≤ c && c ≤ '7'

/-- The value of the first `width` characters, all of them hexadecimal digits. -/
def hexNumber? (width : Nat) (cs : List Char) : Option Nat :=
  let ds := cs.take width
  if ds.length < width then none
  else ds.foldlM (fun n c => (hexValue? c).map (n * 16 + ·)) 0

/-- The characters that a one-letter escape stands for. -/
def simple? : Char → Option (List Char)
  | '\n' => some []
  | '\\' => some ['\\']
  | '\'' => some ['\'']
  | '"' => some ['"']
  | 'a' => some [Char.ofNat 7]
  | 'b' => some [Char.ofNat 8]
  | 'f' => some [Char.ofNat 12]
  | 'n' => some ['\n']
  | 'r' => some ['\r']
  | 't' => some ['\t']
  | 'v' => some [Char.ofNat 11]
  | _ => none

def numbered (width : Nat) (flaw : Flaw) (cs : List Char) : Except Flaw (List Char × Nat) :=
  match hexNumber? width cs with
  | none => .error flaw
  | some n => if n ≤ 0x10FFFF then .ok ([Utf16.charOf n], width) else .error .outOfRange

def named (cs : List Char) : Except Flaw (List Char × Nat) :=
  match cs with
  | '{' :: rest =>
    let name := rest.takeWhile (· != '}')
    if name.isEmpty || name.length == rest.length then .error .malformedName
    else match namedChar? (String.ofList name) with
      | some c => .ok ([c], name.length + 2)
      | none => .error .unknownName
  | _ => .error .malformedName

/-- What the escape with the given letter stands for, and how many characters after the letter
belong to it. An escape that is none stands for itself. -/
def resolve (letter : Char) (cs : List Char) : Except Flaw (List Char × Nat) :=
  match simple? letter with
  | some value => .ok (value, 0)
  | none =>
    if letter = 'x' then numbered 2 .shortByte cs
    else if letter = 'u' then numbered 4 .shortUnit cs
    else if letter = 'U' then numbered 8 .shortPoint cs
    else if letter = 'N' then named cs
    else if isOctal letter then
      let more := (cs.take 2).takeWhile isOctal
      let n := (letter :: more).foldl (fun n c => n * 8 + (c.toNat - 0x30)) 0
      .ok ([Char.ofNat n], more.length)
    else .ok (['\\', letter], 0)

/-- Reads escapes; the next `skip` characters belong to an escape already read. -/
def decodeAscii : Nat → List Char → Except Flaw (List Char)
  | _, [] => .ok []
  | skip + 1, _ :: cs => decodeAscii skip cs
  | 0, c :: cs =>
    if c = '\\' then
      match cs with
      | [] => .ok ['\\']
      | letter :: rest => do
        let (value, length) ← resolve letter rest
        return value ++ (← decodeAscii (length + 1) cs)
    else (c :: ·) <$> decodeAscii 0 cs

/-- The value of a literal; its line breaks are written as `brk`. -/
def decode (brk : List Char) (cs : List Char) : Except Flaw (List Char) :=
  decodeAscii 0 (toAscii (respellBreaks brk cs))

end TemplateLint.Text.Escape
