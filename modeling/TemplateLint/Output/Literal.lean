import TemplateLint.Text.Decimal
import TemplateLint.Text.Escape
import TemplateLint.Text.Lines
import TemplateLint.Text.Word

/-!
Literals: texts that write out a value. A value is a number, a text, bytes, a constant, or a tuple,
a set or a dictionary of values. Only whether a text is a literal counts here, so no value is made.

Every step takes the text that is left and returns what it leaves; the fuel of the steps that call
each other is bounded by the length of the text.
-/

namespace TemplateLint.Output.Literal

/-- What a value can be used for. -/
inductive Form where
  | number (imaginary : Bool)
  /-- A number behind a sign. -/
  | signed (imaginary : Bool)
  /-- Any other value; a set and a dictionary, and what holds one, is no key. -/
  | other (isKey : Bool)
deriving DecidableEq, Repr

namespace Form

def isKey : Form → Bool
  | other k => k
  | _ => true

/-- Puts a sign before a value. -/
def withSign? : Form → Option Form
  | number i => some (signed i)
  | _ => none

/-- The sum, or the difference, of a real number and an imaginary one. -/
def sum? : Form → Form → Option Form
  | number false, number true | signed false, number true => some (other true)
  | _, _ => none

end Form

abbrev Step (α : Type) := List Char → Option (α × List Char)

/-- Leaves out blanks and comments; line breaks count as blanks inside brackets. -/
def skip (inComment inside : Bool) : List Char → List Char
  | [] => []
  | c :: cs =>
    if c = '\n' then (if inside then skip false inside cs else c :: cs)
    else if inComment then skip true inside cs
    else if c = ' ' ∨ c = '\t' ∨ c.toNat = 0x0C then skip false inside cs
    else if c = '#' then skip true inside cs
    else if c = '\\' then
      match cs with
      | '\n' :: more => skip false inside more
      | _ => c :: cs
    else c :: cs

/-! Numbers. -/

/-- Digits with single low lines between them. -/
def digits (isDigit : Char → Bool) (afterDigit : Bool) : Step (List Char)
  | [] => if afterDigit then some ([], []) else none
  | c :: cs =>
    if isDigit c then (digits isDigit true cs).map fun (ds, rest) => (c :: ds, rest)
    else if !afterDigit then none
    else if c = '_' then digits isDigit false cs
    else some ([], c :: cs)

def startsWithDigit (cs : List Char) : Bool := cs.head?.any Char.isDigit

/-- Which digits follow a zero and a letter. -/
def baseDigit? (letter : Char) : Option (Char → Bool) :=
  match letter.toLower with
  | 'x' => some fun c => (Text.Escape.hexValue? c).isSome
  | 'o' => some Text.Escape.isOctal
  | 'b' => some fun c => c == '0' || c == '1'
  | _ => none

/-- A point and the digits behind it, of which there may be none: whether there is a point. -/
def fraction : Step Bool
  | '.' :: cs =>
    if startsWithDigit cs then (digits Char.isDigit false cs).map fun (_, rest) => (true, rest)
    else some (true, cs)
  | cs => some (false, cs)

/-- An exponent: whether there is one. -/
def exponent : Step Bool
  | c :: cs =>
    if c.toLower = 'e' then
      let cs := match cs with
        | '+' :: more | '-' :: more => more
        | more => more
      (digits Char.isDigit false cs).map fun (_, rest) => (true, rest)
    else some (false, c :: cs)
  | [] => some (false, [])

/-- Whether digits are an integer: zeros stand in front of zeros only. -/
def isInteger (ds : List Char) : Bool :=
  (ds.head? != some '0' || ds.all (· == '0')) && ds.length ≤ Text.Decimal.maxDigits

def decimal (cs : List Char) : Option (Form × List Char) := do
  let (whole, cs) ← if startsWithDigit cs then digits Char.isDigit false cs else some ([], cs)
  if whole.isEmpty && !startsWithDigit (cs.drop 1) then none
  let (pointed, cs) ← fraction cs
  let (scaled, cs) ← exponent cs
  match cs with
  | 'j' :: rest | 'J' :: rest => return (.number true, rest)
  | rest => if pointed || scaled || isInteger whole then return (.number false, rest) else none

/-- Whether a character goes on with a word or a number. -/
def isWordPart (c : Char) : Bool := Text.isAsciiWord c || 0x80 ≤ c.toNat

def number (cs : List Char) : Option (Form × List Char) := do
  let based := match cs with
    | '0' :: letter :: rest => (baseDigit? letter).map fun isDigit => (isDigit, rest)
    | _ => none
  let (form, rest) ← match based with
    | some (isDigit, rest) =>
      let rest := match rest with
        | '_' :: more => more
        | more => more
      (digits isDigit false rest).map fun (_, rest) => (Form.number false, rest)
    | none => decimal cs
  if rest.head?.any isWordPart then none else some (form, rest)

/-! Texts and bytes. -/

/-- The inside of quotes up to their end, which are three for a text of several lines. -/
def quoted (quote : Char) (triple : Bool) : Step (List Char)
  | [] => none
  | '\\' :: c :: cs =>
    (quoted quote triple cs).map fun (inner, rest) => ('\\' :: c :: inner, rest)
  | c :: cs =>
    if c = quote then
      if !triple then some ([], cs)
      else match cs with
        | a :: b :: rest =>
          if a = quote ∧ b = quote then some ([], rest)
          else (quoted quote triple cs).map fun (inner, rest) => (c :: inner, rest)
        | _ => none
    else if c = '\n' ∧ !triple then none
    else (quoted quote triple cs).map fun (inner, rest) => (c :: inner, rest)

/-- Whether the numbers of bytes have two digits. -/
def hasFullBytes : List Char → Bool
  | '\\' :: 'x' :: cs => (Text.Escape.hexNumber? 2 cs).isSome && hasFullBytes cs
  | '\\' :: _ :: cs => hasFullBytes cs
  | _ :: cs => hasFullBytes cs
  | [] => true

/-- Whether a text can be what is inside the quotes. -/
def isInside (raw bytes : Bool) (inner : List Char) : Bool :=
  if bytes then inner.all (·.toNat < 0x80) && (raw || hasFullBytes inner)
  else raw || (Text.Escape.decode ['\n'] inner).isOk

/-- What may stand before quotes. -/
def prefixes : List String := ["", "r", "u", "b", "br", "rb"]

def isQuote (c : Char) : Bool := c == '\'' || c == '"'

/-- A text or bytes in quotes: whether it is bytes. -/
def string (cs : List Char) : Option (Bool × List Char) := do
  let letters := (cs.takeWhile Char.isAlpha).map Char.toLower
  if !prefixes.contains (String.ofList letters) then none
  let (quote, cs) ← match cs.drop letters.length with
    | q :: more => if isQuote q then some (q, more) else none
    | [] => none
  let (triple, cs) := match cs with
    | a :: b :: more => if a = quote ∧ b = quote then (true, more) else (false, cs)
    | _ => (false, cs)
  let (inner, rest) ← quoted quote triple cs
  let bytes := letters.contains 'b'
  if isInside (letters.contains 'r') bytes inner then some (bytes, rest) else none

/-- Texts, or bytes, one after the other, which are one text; others have been read. -/
def strings (inside bytes : Bool) : Nat → Step Form
  | 0, cs => some (.other true, cs)
  | fuel + 1, cs =>
    match string (skip false inside cs) with
    | some (b, rest) => if b = bytes then strings inside bytes fuel rest else none
    | none => some (.other true, cs)

/-! Values. -/

def constants : List String := ["None", "True", "False"]

/-- The value that a word stands for; the empty set is the only one that is written as a call. -/
def named (inside : Bool) (cs : List Char) : Option (Form × List Char) :=
  let word := String.ofList (cs.takeWhile isWordPart)
  let rest := cs.dropWhile isWordPart
  if constants.contains word then some (.other true, rest)
  else if word == "set" then
    match skip false inside rest with
    | '(' :: more =>
      match skip false true more with
      | ')' :: rest => some (.other false, rest)
      | _ => none
    | _ => none
  else none

/-- A value without brackets and signs. -/
def atom (inside : Bool) (cs : List Char) : Option (Form × List Char) :=
  match cs with
  | '.' :: '.' :: '.' :: rest => some (.other true, rest)
  | c :: _ =>
    if c.isDigit || c == '.' then number cs
    else match string cs with
      | some (bytes, rest) => strings inside bytes cs.length rest
      | none => named inside cs
  | [] => none

/-- Brackets may not be nested more deeply. -/
def maxDepth : Nat := 200

mutual

/-- A value in so many brackets. -/
def value : Nat → Nat → Step Form
  | 0, _, _ => none
  | fuel + 1, depth, cs => do
    let (a, cs) ← signedValue fuel depth cs
    match skip false (0 < depth) cs with
    | '+' :: more | '-' :: more =>
      let (b, rest) ← signedValue fuel depth more
      return (← a.sum? b, rest)
    | rest => return (a, rest)

def signedValue : Nat → Nat → Step Form
  | 0, _, _ => none
  | fuel + 1, depth, cs =>
    match skip false (0 < depth) cs with
    | '+' :: more | '-' :: more => do
      let (a, rest) ← signedValue fuel depth more
      return (← a.withSign?, rest)
    | '(' :: more => if depth < maxDepth then group fuel (depth + 1) more else none
    | '{' :: more => if depth < maxDepth then braces fuel (depth + 1) more else none
    | rest => atom (0 < depth) rest

/-- What stands in round brackets: a value, or a tuple. -/
def group : Nat → Nat → Step Form
  | 0, _, _ => none
  | fuel + 1, depth, cs =>
    match skip false true cs with
    | ')' :: rest => some (.other true, rest)
    | cs => do
      let (a, cs) ← value fuel depth cs
      match skip false true cs with
      | ')' :: rest => return (a, rest)
      | ',' :: more =>
        let (areKeys, rest) ← items fuel depth ')' more
        return (.other (a.isKey && areKeys), rest)
      | _ => none

/-- What stands in curly brackets: a set or a dictionary. -/
def braces : Nat → Nat → Step Form
  | 0, _, _ => none
  | fuel + 1, depth, cs =>
    match skip false true cs with
    | '}' :: rest => some (.other false, rest)
    | cs => do
      let (a, cs) ← value fuel depth cs
      if !a.isKey then none
      match skip false true cs with
      | '}' :: rest => return (.other false, rest)
      | ',' :: more =>
        let (areKeys, rest) ← items fuel depth '}' more
        if areKeys then return (.other false, rest) else none
      | ':' :: more =>
        let (_, cs) ← value fuel depth more
        members fuel depth cs
      | _ => none

/-- Further items up to the closing bracket: whether all of them can be keys. -/
def items : Nat → Nat → Char → Step Bool
  | 0, _, _, _ => none
  | fuel + 1, depth, close, cs =>
    match skip false true cs with
    | [] => none
    | c :: rest =>
      if c = close then some (true, rest)
      else do
        let (a, cs) ← value fuel depth (c :: rest)
        match skip false true cs with
        | [] => none
        | d :: more =>
          if d = close then return (a.isKey, more)
          else if d = ',' then
            let (areKeys, rest) ← items fuel depth close more
            return (a.isKey && areKeys, rest)
          else none

/-- Further members up to the closing bracket, each behind a comma. -/
def members : Nat → Nat → Step Form
  | 0, _, _ => none
  | fuel + 1, depth, cs =>
    match skip false true cs with
    | '}' :: rest => some (.other false, rest)
    | ',' :: more =>
      match skip false true more with
      | '}' :: rest => some (.other false, rest)
      | cs => do
        let (a, cs) ← value fuel depth cs
        if !a.isKey then none
        match skip false true cs with
        | ':' :: more =>
          let (_, cs) ← value fuel depth more
          members fuel depth cs
        | _ => none
    | _ => none

end

/-- Whether blanks, comments and line breaks are all that is left. -/
def isEnd (cs : List Char) : Bool :=
  match skip false false cs with
  | [] => true
  | '\n' :: more => (skip false true more).isEmpty
  | _ => false

/-- Values with commas between them, which are a tuple without brackets. -/
def values (fuelEach : Nat) : Nat → List Char → Bool
  | 0, _ => false
  | fuel + 1, cs =>
    match value fuelEach 0 cs with
    | none => false
    | some (_, rest) =>
      match skip false false rest with
      | ',' :: more => isEnd more || values fuelEach fuel more
      | rest => isEnd rest

/-- Whether a text without blanks at its ends is a literal. -/
def isLiteral (cs : List Char) : Bool :=
  let cs := Text.unifyBreaks cs
  let fuel := 4 * cs.length + 8
  values fuel fuel cs

end TemplateLint.Output.Literal
