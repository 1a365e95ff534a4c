import TemplateLint.Output.Color

/-!
Styles of text. A style is written in words, such as `bold red on white`; styles that look the same
have the same normal form.
-/

namespace TemplateLint.Output

inductive Style.Attribute where
  | bold | dim | italic | underline | blink | blink2 | reverse | conceal | strike | underline2
  | frame | encircle | overline
deriving DecidableEq, Repr

namespace Style.Attribute

/-- Every attribute, in the order in which a style names them. -/
def all : List Attribute := [bold, dim, italic, underline, blink, blink2, reverse, conceal, strike,
  underline2, frame, encircle, overline]

def name : Attribute → String
  | bold => "bold"
  | dim => "dim"
  | italic => "italic"
  | underline => "underline"
  | blink => "blink"
  | blink2 => "blink2"
  | reverse => "reverse"
  | conceal => "conceal"
  | strike => "strike"
  | underline2 => "underline2"
  | frame => "frame"
  | encircle => "encircle"
  | overline => "overline"

/-- The short name of an attribute, if it has one. -/
def shortName? : Attribute → Option String
  | bold => some "b"
  | dim => some "d"
  | italic => some "i"
  | underline => some "u"
  | reverse => some "r"
  | conceal => some "c"
  | strike => some "s"
  | underline2 => some "uu"
  | overline => some "o"
  | _ => none

def ofWord? (word : String) : Option Attribute :=
  all.find? fun a => a.name == word || a.shortName? == some word

end Style.Attribute

structure Style where
  /-- The attributes that are turned on or off, the last ones first. -/
  attributes : List (Style.Attribute × Bool) := []
  color : Option (List Char) := none
  background : Option (List Char) := none
  link : Option (List Char) := none

namespace Style

/-- The words of a text. -/
def wordsOf (cs : List Char) : List (List Char) :=
  (Text.split ' ' (cs.map fun c => if Text.isBlank c then ' ' else c)).filter (!·.isEmpty)

/-- Reads the words of a style. -/
def readWords (s : Style) : List (List Char) → Except Color.Flaw Style
  | [] => .ok s
  | w :: ws =>
    let word := String.ofList (Text.lower w)
    if word == "on" then
      match ws with
      | [] => .error .unknown
      | c :: ws => do readWords { s with background := some (← Color.ofWord c) } ws
    else if word == "not" then
      match ws with
      | [] => .error .unknown
      | a :: ws =>
        match Attribute.ofWord? (String.ofList a) with
        | some a => readWords { s with attributes := (a, false) :: s.attributes } ws
        | none => .error .unknown
    else if word == "link" then
      match ws with
      | [] => .error .unknown
      | target :: ws => readWords { s with link := some target } ws
    else match Attribute.ofWord? word with
      | some a => readWords { s with attributes := (a, true) :: s.attributes } ws
      | none => do readWords { s with color := some (← Color.ofWord w) } ws

def read (cs : List Char) : Except Color.Flaw Style := readWords {} (wordsOf cs)

/-- What is known about an attribute. -/
def attribute? (s : Style) (a : Attribute) : Option Bool :=
  (s.attributes.find? (·.1 = a)).map (·.2)

/-- The words of a style in their order. -/
def words (s : Style) : List (List Char) :=
  (Attribute.all.filterMap fun a =>
    (s.attribute? a).map fun on => ((if on then "" else "not ") ++ a.name).toList) ++
  s.color.toList ++
  (s.background.map fun c => "on ".toList ++ c).toList ++
  (s.link.map fun t => "link ".toList ++ t).toList

def text (s : Style) : List Char :=
  match s.words with
  | [] => "none".toList
  | ws => [' '].intercalate ws

/-- The normal form of what is written for a style; what is none is compared in lower case. -/
def normal (cs : List Char) : Except Color.Flaw (List Char) :=
  match read cs with
  | .ok s => .ok s.text
  | .error .unknown => .ok (Text.lower (Text.trim cs))
  | .error .noNumber => .error .noNumber

end Style

end TemplateLint.Output
