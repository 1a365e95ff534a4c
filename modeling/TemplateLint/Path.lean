import TemplateLint.Text.Split

/-!
Paths: an anchor and a list of names. Doubled slashes and `.` say nothing and are dropped when a
path is read; `..` is kept as a name.
-/

namespace TemplateLint

/-- Where a path starts: at the working directory, at the root, or at the root written with
exactly two slashes. -/
inductive Anchor where
  | here
  | root
  | doubleRoot
deriving DecidableEq, Repr, Inhabited

def Anchor.text : Anchor → String
  | .here => ""
  | .root => "/"
  | .doubleRoot => "//"

structure Path where
  anchor : Anchor
  names : List String
deriving DecidableEq, Repr, Inhabited

namespace Path

def here : Path := ⟨.here, []⟩

def anchorOf : List Char → Anchor
  | '/' :: '/' :: '/' :: _ => .root
  | '/' :: '/' :: _ => .doubleRoot
  | '/' :: _ => .root
  | _ => .here

def ofChars (cs : List Char) : Path where
  anchor := anchorOf cs
  names := ((Text.split '/' cs).filter fun n => n != [] && n != ['.']).map String.ofList

def ofString (s : String) : Path := ofChars s.toList

/-- The path as text; the path of the working directory is written `.`. -/
def toString (p : Path) : String :=
  match p.anchor, p.names with
  | .here, [] => "."
  | a, ns => a.text ++ "/".intercalate ns

instance : ToString Path := ⟨toString⟩

/-- The last name, empty for a path without names. -/
def name (p : Path) : String := p.names.getLast?.getD ""

/-- The path without its last name; a path without names is its own parent. -/
def parent (p : Path) : Path := { p with names := p.names.dropLast }

def child (p : Path) (name : String) : Path := { p with names := p.names ++ [name] }

def join (p q : Path) : Path :=
  match q.anchor with
  | .here => { p with names := p.names ++ q.names }
  | _ => q

/-- A name cut before the last dot that is neither its first nor its last character. -/
def splitName (name : String) : String × String :=
  let cs := name.toList
  let tail := (cs.reverse.takeWhile (· != '.')).reverse
  let stem := cs.take (cs.length - tail.length - 1)
  if tail.length < cs.length && !tail.isEmpty && !stem.isEmpty then
    (String.ofList stem, String.ofList ('.' :: tail))
  else (name, "")

def stem (p : Path) : String := (splitName p.name).1

def suffix (p : Path) : String := (splitName p.name).2

/-- What remains of a list after another one that it starts with. -/
def dropPrefix? {α : Type} [DecidableEq α] : List α → List α → Option (List α)
  | [], xs => some xs
  | b :: bs, x :: xs => if b = x then dropPrefix? bs xs else none
  | _ :: _, [] => none

/-- The path as seen from `base`, if it lies at or below it. -/
def relativeTo? (p base : Path) : Option Path :=
  if p.anchor = base.anchor then (dropPrefix? base.names p.names).map (⟨.here, ·⟩) else none

/-- The anchor, if there is one, and the names: what paths are ordered by. -/
def parts (p : Path) : List String :=
  match p.anchor with
  | .here => p.names
  | a => a.text :: p.names

/-- The order of lists by their first difference. -/
def partsLe : List String → List String → Bool
  | [], _ => true
  | _ :: _, [] => false
  | a :: as, b :: bs => a < b || a == b && partsLe as bs

def le (p q : Path) : Bool := partsLe p.parts q.parts

def sort (ps : List Path) : List Path := ps.mergeSort le

end Path

end TemplateLint
