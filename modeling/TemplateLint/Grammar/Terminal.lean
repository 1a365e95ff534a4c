import TemplateLint.Dialect
import TemplateLint.Lexeme.Lexer
import TemplateLint.Text.Decimal
import TemplateLint.Text.Escape

/-!
Terminals: the words of the template grammar. White space and comments are gone, names are checked,
strings and numbers have their values.
-/

namespace TemplateLint.Grammar

inductive Op where
  | add | sub | div | floorDiv | mul | mod | pow | tilde
  | lbracket | rbracket | lparen | rparen | lbrace | rbrace
  | eq | ne | gt | gteq | lt | lteq | assign | dot | colon | pipe | comma | semicolon
deriving DecidableEq, Repr, Inhabited

namespace Op

def all : List Op := [add, sub, div, floorDiv, mul, mod, pow, tilde, lbracket, rbracket, lparen,
  rparen, lbrace, rbrace, eq, ne, gt, gteq, lt, lteq, assign, dot, colon, pipe, comma, semicolon]

def text : Op → String
  | add => "+"
  | sub => "-"
  | div => "/"
  | floorDiv => "//"
  | mul => "*"
  | mod => "%"
  | pow => "**"
  | tilde => "~"
  | lbracket => "["
  | rbracket => "]"
  | lparen => "("
  | rparen => ")"
  | lbrace => "\x7b"
  | rbrace => "\x7d"
  | eq => "=="
  | ne => "!="
  | gt => ">"
  | gteq => ">="
  | lt => "<"
  | lteq => "<="
  | assign => "="
  | dot => "."
  | colon => ":"
  | pipe => "|"
  | comma => ","
  | semicolon => ";"

def ofText? (s : String) : Option Op := all.find? (·.text == s)

end Op

/-- What a terminal is. -/
inductive Shape where
  | data (s : String)
  | name (s : String)
  | string (s : String)
  | integer (n : Nat)
  /-- A number with a point or an exponent, as it was written. -/
  | float (s : String)
  | blockBegin | blockEnd | variableBegin | variableEnd
  | op (o : Op)
  | finish
deriving DecidableEq, Repr, Inhabited

structure Terminal where
  line : Nat
  shape : Shape
  /-- How many tokens of the template stand before it. -/
  place : Nat
deriving DecidableEq, Repr, Inhabited

namespace Shape

def describe : Shape → String
  | data _ => "template data / text"
  | name s => s
  | string _ => "string"
  | integer _ => "integer"
  | float _ => "float"
  | blockBegin => "begin of statement block"
  | blockEnd => "end of statement block"
  | variableBegin => "begin of print statement"
  | variableEnd => "end of print statement"
  | op o => o.text
  | finish => "end of template"

def isName : Shape → Bool
  | name _ => true
  | _ => false

/-- Whether the terminal is one of the given words. -/
def isWord (words : List String) : Shape → Bool
  | name s => words.contains s
  | _ => false

end Shape

/-- What the grammar can ask for. -/
inductive Wanted where
  | someName
  | word (s : String)
  | op (o : Op)
  | blockEnd
  | variableEnd
deriving DecidableEq, Repr

namespace Wanted

def describe : Wanted → String
  | someName => "name"
  | word s => s
  | op o => o.text
  | blockEnd => "end of statement block"
  | variableEnd => "end of print statement"

def fits : Wanted → Shape → Bool
  | someName, .name _ => true
  | word s, .name t => s == t
  | op o, .op p => o == p
  | blockEnd, .blockEnd => true
  | variableEnd, .variableEnd => true
  | _, _ => false

end Wanted

/-- Why a lexeme is no terminal. -/
inductive Misread where
  | identifier
  | escape (f : Text.Escape.Flaw)
  /-- A decimal number of so many digits. -/
  | longInteger (digits : Nat)
  /-- A number with a point or an exponent starts with a digit of a foreign script. -/
  | foreignStart (c : Char)
  /-- Zeros stand before other digits, and a foreign one behind those. -/
  | leadingZeros
  /-- Elsewhere in a number with a point or an exponent stands a foreign digit. -/
  | foreignDigit
deriving DecidableEq, Repr

def upperHex (width n : Nat) : String :=
  String.ofList ((Text.Quoted.hex width n).map Char.toUpper)

def Misread.message : Misread → String
  | .identifier => "Invalid character in identifier"
  | .escape f => f.message
  | .longInteger n =>
    s!"Exceeds the limit ({Text.Decimal.maxDigits} digits) for integer string conversion: " ++
      s!"value has {n} digits; use sys.set_int_max_str_digits() to increase the limit"
  | .foreignStart c =>
    let n := c.toNat
    let code := upperHex (if n < 0x10000 then 4 else if n < 0x100000 then 5 else 6) n
    s!"invalid character '{c}' (U+{code}) (<unknown>, line 1)"
  | .leadingZeros =>
    "leading zeros in decimal integer literals are not permitted; " ++
      "use an 0o prefix for octal integers (<unknown>, line 1)"
  | .foreignDigit => "invalid decimal literal (<unknown>, line 1)"

def digitValue (c : Char) : Nat :=
  match Text.digitValue? c with
  | some n => n
  | none => (Text.Escape.hexValue? c).getD 0

def valueIn (base : Nat) (cs : List Char) : Nat := cs.foldl (fun n c => n * base + digitValue c) 0

/-- The value of a number without low lines, in the base that it starts with. -/
def integerValue (cs : List Char) : Except Misread Nat :=
  match cs with
  | '0' :: c :: ds =>
    if c = 'x' ∨ c = 'X' then .ok (valueIn 16 ds)
    else if c = 'o' ∨ c = 'O' then .ok (valueIn 8 ds)
    else if c = 'b' ∨ c = 'B' then .ok (valueIn 2 ds)
    else decimalValue cs
  | _ => decimalValue cs
where
  decimalValue (cs : List Char) : Except Misread Nat :=
    if Text.Decimal.maxDigits < cs.length then .error (.longInteger cs.length)
    else .ok (valueIn 10 cs)

def isForeign (c : Char) : Bool := 0x80 ≤ c.toNat

/-- What is wrong with a number with a point or an exponent. It is read from the left: a foreign
digit at the start is no number at all, and one behind an integer ends that integer, which may not
have zeros in front. -/
def foreignFault? (cs : List Char) : Option Misread :=
  if !cs.any isForeign then none
  else
    let (ds, rest) := Text.Decimal.span cs
    match ds, rest with
    | [], c :: _ => some (.foreignStart c)
    | '0' :: ds, c :: _ =>
      some (if isForeign c && ds.any (· != '0') then .leadingZeros else .foreignDigit)
    | _, _ => some .foreignDigit

def withoutLowLines (cs : List Char) : List Char := cs.filter (· != '_')

/-- The terminal that a lexeme stands for; white space, comments and the tags around raw text
stand for none. -/
def Shape.ofLexeme (lineBreak : List Char) (l : Lexeme) : Except Misread (Option Shape) :=
  match l.kind with
  | .data => .ok (some (.data (String.ofList (Text.respellBreaks lineBreak l.text))))
  | .name =>
    if Text.isIdentifier l.text then .ok (some (.name (String.ofList l.text)))
    else .error .identifier
  | .string =>
    match Text.Escape.decode lineBreak (l.text.drop 1).dropLast with
    | .ok cs => .ok (some (.string (String.ofList cs)))
    | .error f => .error (.escape f)
  | .integer => (integerValue (withoutLowLines l.text)).map fun n => some (.integer n)
  | .float =>
    let cs := withoutLowLines l.text
    match foreignFault? cs with
    | some f => .error f
    | none => .ok (some (.float (String.ofList cs)))
  | .operator => .ok ((Op.ofText? (String.ofList l.text)).map .op)
  | .blockBegin | .lineStatementBegin => .ok (some .blockBegin)
  | .blockEnd | .lineStatementEnd => .ok (some .blockEnd)
  | .variableBegin => .ok (some .variableBegin)
  | .variableEnd => .ok (some .variableEnd)
  | .rawBegin | .rawEnd | .commentBegin | .comment | .commentEnd | .lineCommentBegin
  | .lineComment | .lineCommentEnd | .whitespace | .stripped => .ok none

end TemplateLint.Grammar
