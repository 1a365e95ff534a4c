import TemplateLint.Json.Basic
import TemplateLint.Text.Decimal
import TemplateLint.Text.Escape

/-!
Reading JSON. Every step takes the text that is left and returns what it leaves; the depth of a
value and the number of its items are bounded by the length of the text.
-/

namespace TemplateLint.Json

abbrev Step (α : Type) := List Char → Option (α × List Char)

def isGap (c : Char) : Bool := c == ' ' || c == '\n' || c == '\r' || c == '\t'

def skipGaps (cs : List Char) : List Char := cs.dropWhile isGap

/-- What the letter after a backslash stands for. -/
def letterEscape? : Char → Option Char
  | '"' => some '"'
  | '\\' => some '\\'
  | '/' => some '/'
  | 'b' => some (Char.ofNat 0x08)
  | 'f' => some (Char.ofNat 0x0C)
  | 'n' => some '\n'
  | 'r' => some '\r'
  | 't' => some '\t'
  | _ => none

/-- The low half that an escape names, if a text starts with one. -/
def lowHalf? : List Char → Option Nat
  | '\\' :: 'u' :: more => (Text.Escape.hexNumber? 4 more).filter Text.Utf16.isLow
  | _ => none

/-- The character written by a unit, or by a pair of units, and the characters read. -/
def unitChar? (cs : List Char) : Option (Char × Nat) := do
  let n ← Text.Escape.hexNumber? 4 cs
  match if Text.Utf16.isHigh n then lowHalf? (cs.drop 4) else none with
  | some m => return (Text.Utf16.join n m, 10)
  | none => return (Text.Utf16.charOf n, 4)

/-- The inside of a string up to its closing quote; the next `skip` characters belong to an
escape already read. -/
def parseStr : Nat → Step (List Char)
  | _, [] => none
  | skip + 1, _ :: cs => parseStr skip cs
  | 0, c :: cs =>
    if c = '"' then some ([], cs)
    else if c.toNat < 0x20 then none
    else if c = '\\' then
      match cs with
      | [] => none
      | 'u' :: more => do
        let (d, n) ← unitChar? more
        let (ds, rest) ← parseStr (n + 1) cs
        return (d :: ds, rest)
      | e :: _ => do
        let d ← letterEscape? e
        let (ds, rest) ← parseStr 1 cs
        return (d :: ds, rest)
    else do
      let (ds, rest) ← parseStr 0 cs
      return (c :: ds, rest)

/-- The exponent of a number, if there is one: its value and what follows. -/
def parseExponent (cs : List Char) : Option (Int × List Char) :=
  match cs with
  | e :: rest =>
    if e = 'e' ∨ e = 'E' then
      let (negative, rest) := match rest with
        | '-' :: r => (true, r)
        | '+' :: r => (false, r)
        | r => (false, r)
      let (ds, rest) := Text.Decimal.span rest
      if ds.isEmpty then none
      else
        let n : Int := Text.Decimal.value ds
        some (if negative then -n else n, rest)
    else none
  | [] => none

/-- The digits after the point, if there are any. -/
def parsePlaces (cs : List Char) : Option (List Char × List Char) :=
  match cs with
  | '.' :: rest =>
    let (ds, rest) := Text.Decimal.span rest
    if ds.isEmpty then none else some (ds, rest)
  | _ => none

/-- Whether a number is negative, and what follows its sign. -/
def parseSign : List Char → Bool × List Char
  | '-' :: r => (true, r)
  | r => (false, r)

/-- The digits before the point, and what follows them. A zero in front stands alone. -/
def parseWhole : List Char → List Char × List Char
  | '0' :: r => (['0'], r)
  | r => Text.Decimal.span r

/-- A number; an integer may have no more digits than the limit, if there is one. -/
def parseNumber (limit : Option Nat) : Step Json := fun cs =>
  let (negative, cs) := parseSign cs
  let (ds, rest) := parseWhole cs
  if ds.isEmpty then none
  else
    let float (places : List Char) (e : Int) : Json :=
      .float (.ofDecimal negative (Text.Decimal.value (ds ++ places)) (e - places.length))
    match parsePlaces rest with
    | some (places, rest) =>
      match parseExponent rest with
      | some (e, rest) => some (float places e, rest)
      | none => some (float places 0, rest)
    | none =>
      match parseExponent rest with
      | some (e, rest) => some (float [] e, rest)
      | none =>
        if limit.any (· < ds.length) then none
        else
          let n := Text.Decimal.value ds
          some (.int (if negative then -(n : Int) else n), rest)

def parseWord (word : List Char) (j : Json) : Step Json := fun cs =>
  (cs.take word.length == word, cs.drop word.length) |> fun (ok, rest) =>
    if ok then some (j, rest) else none

/-- What follows the first letter of an infinite number. -/
def infinityTail : List Char := ['n', 'f', 'i', 'n', 'i', 't', 'y']

section

variable (limit : Option Nat)

mutual

def parseValue : Nat → Step Json
  | 0, _ => none
  | fuel + 1, cs =>
    match skipGaps cs with
    | '"' :: rest => do
      let (s, rest) ← parseStr 0 rest
      return (.str (String.ofList s), rest)
    | '[' :: rest =>
      match skipGaps rest with
      | ']' :: rest => some (.arr [], rest)
      | rest => do
        let (x, rest) ← parseValue fuel rest
        let (xs, rest) ← parseItems fuel rest
        return (.arr (x :: xs), rest)
    | '{' :: rest =>
      match skipGaps rest with
      | '}' :: rest => some (.obj [], rest)
      | rest => do
        let (m, rest) ← parseMember fuel rest
        let (ms, rest) ← parseMembers fuel rest
        return (.obj (m :: ms), rest)
    | 'n' :: rest => parseWord ['u', 'l', 'l'] .null rest
    | 't' :: rest => parseWord ['r', 'u', 'e'] (.bool true) rest
    | 'f' :: rest => parseWord ['a', 'l', 's', 'e'] (.bool false) rest
    | 'N' :: rest => parseWord ['a', 'N'] (.float .nan) rest
    | 'I' :: rest => parseWord infinityTail (.float (.infinite false)) rest
    | '-' :: 'I' :: rest => parseWord infinityTail (.float (.infinite true)) rest
    | rest => parseNumber limit rest

def parseItems : Nat → Step (List Json)
  | 0, _ => none
  | fuel + 1, cs =>
    match skipGaps cs with
    | ']' :: rest => some ([], rest)
    | ',' :: rest => do
      let (x, rest) ← parseValue fuel rest
      let (xs, rest) ← parseItems fuel rest
      return (x :: xs, rest)
    | _ => none

def parseMember : Nat → Step (String × Json)
  | 0, _ => none
  | fuel + 1, cs =>
    match skipGaps cs with
    | '"' :: rest => do
      let (k, rest) ← parseStr 0 rest
      match skipGaps rest with
      | ':' :: rest =>
        let (x, rest) ← parseValue fuel rest
        return ((String.ofList k, x), rest)
      | _ => none
    | _ => none

def parseMembers : Nat → Step (List (String × Json))
  | 0, _ => none
  | fuel + 1, cs =>
    match skipGaps cs with
    | '}' :: rest => some ([], rest)
    | ',' :: rest => do
      let (m, rest) ← parseMember fuel rest
      let (ms, rest) ← parseMembers fuel rest
      return (m :: ms, rest)
    | _ => none

end

/-- The value of a text that holds one value and blanks only. -/
def parseWithin? (s : String) : Option Json :=
  let cs := s.toList
  match parseValue limit (cs.length + 1) cs with
  | some (j, rest) => if (skipGaps rest).isEmpty then some j else none
  | none => none

end

/-- The value of a text, if all its integers have few enough digits. -/
def parse? (s : String) : Option Json := parseWithin? (some Text.Decimal.maxDigits) s

end TemplateLint.Json
