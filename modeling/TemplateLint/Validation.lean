import TemplateLint.Diagnostic
import TemplateLint.Text.Blank
import TemplateLint.Text.Decimal
import TemplateLint.Text.Utf16
import TemplateLint.Token

/-!
Checking values that come from outside. Numbers may be written as texts, and truth values in several
ways; everything else has to have its type. A record with wrong values is refused with the names of
the fields that hold them.
-/

namespace TemplateLint.Validation

/-- The value of digits with single low lines between them. Zeros in front do not count for the
length that a number may have. -/
def digits? (cs : List Char) : Option Nat :=
  let rec go (afterDigit : Bool) : List Char → Option (List Char)
    | [] => if afterDigit then some [] else none
    | c :: cs =>
      if c.isDigit then (c :: ·) <$> go true cs
      else if c = '_' && afterDigit then go false cs
      else none
  (go false cs).bind fun ds =>
    let ds := ds.dropWhile (· == '0')
    if Text.Decimal.maxDigits < ds.length then none else some (Text.Decimal.value ds)

/-- The text without a point and the zeros behind it, of which there is at least one. -/
def dropZeros (cs : List Char) : List Char :=
  let tail := cs.reverse
  match tail.head?, tail.dropWhile (· == '0') with
  | some '0', '.' :: front => front.reverse
  | _, _ => cs

/-- Blank, and none of the characters that separate files, groups, records and units. -/
def isSpace (c : Char) : Bool := Text.isBlank c && !Text.inRanges [(0x1C, 0x1F)] c.toNat

def withoutSpaces (cs : List Char) : List Char :=
  ((cs.dropWhile isSpace).reverse.dropWhile isSpace).reverse

/-- The integer that a text denotes. -/
def intOfText? (s : String) : Option Int :=
  match dropZeros (withoutSpaces s.toList) with
  | '-' :: cs => (digits? cs).map fun n => -(n : Int)
  | '+' :: cs => (digits? cs).map fun n => (n : Int)
  | cs => (digits? cs).map fun n => (n : Int)

/-- A number with a point counts only below this one. -/
def floatBound : Nat := Nat.pow 2 63

def int? : Json → Option Int
  | .bool b => some (if b then 1 else 0)
  | .str s => intOfText? s
  | .float x => x.integral?.filter fun i => i.natAbs < floatBound
  | j => j.integral?

def trueWords : List String := ["1", "t", "true", "y", "yes", "on"]
def falseWords : List String := ["0", "f", "false", "n", "no", "off"]

def boolOfText? (s : String) : Option Bool :=
  let s := s.map Char.toLower
  if trueWords.contains s then some true
  else if falseWords.contains s then some false
  else none

def bool? : Json → Option Bool
  | .bool b => some b
  | .str s => boolOfText? s
  | j =>
    match j.integral? with
    | some 0 => some false
    | some 1 => some true
    | _ => none

/-- A text, none of whose characters is a half. -/
def text? (j : Json) : Option String := j.str?.filter fun s => !Text.Utf16.holdsHalf s

/-- A list of texts, or the positions of the items that are none. A value that is no list is
refused as a whole. -/
def texts? : Json → Except (Option (List Nat)) (List String)
  | .arr xs =>
    let bad := xs.zipIdx.filterMap fun (x, i) => if (text? x).isNone then some i else none
    if bad.isEmpty then .ok (xs.filterMap text?) else .error (some bad)
  | _ => .error none

/-- A line number: an integer from one on. -/
def line? (j : Json) : Option Int := (int? j).filter (1 ≤ ·)

/-- The names of the fields whose values are missing. -/
def wrong (fields : List (String × Bool)) : List String :=
  (fields.filter fun f => !f.2).map (·.1)

/-- Checks the values of a token. -/
def token (lineno type value : Json) : Except (List String) Token :=
  match line? lineno, text? type, text? value with
  | some l, some t, some v => .ok ⟨l, t, v⟩
  | l, t, v =>
    .error (wrong [("lineno", l.isSome), ("type", t.isSome), ("value", v.isSome)])

/-- A line that may be unknown. -/
def optionalLine? : Json → Option (Option Int)
  | .null => some none
  | j => (line? j).map some

/-- Checks the values of a diagnostic. -/
def diagnostic (severity rule line source filename message : Json) :
    Except (List String) Diagnostic :=
  match (text? severity).bind Severity.ofText?, text? rule, optionalLine? line, text? source,
      text? filename, text? message with
  | some severity, some rule, some line, some source, some filename, some message =>
    .ok ⟨severity, rule, line, source, filename, message⟩
  | a, b, c, d, e, f =>
    .error (wrong [("filename", e.isSome), ("line", c.isSome), ("message", f.isSome),
      ("rule", b.isSome), ("severity", a.isSome), ("source", d.isSome)])

end TemplateLint.Validation
