import TemplateLint.Log
import TemplateLint.Path
import TemplateLint.Text.Blank
import TemplateLint.Text.Glob

/-!
Ignore patterns: which files are left out. Patterns are given for a directory and matched against
paths as seen from there; the patterns for a file are looked for from its directory upwards.
-/

namespace TemplateLint

namespace Pattern

/-- A text without a given character at its ends. -/
def dropLeading (c : Char) (cs : List Char) : List Char := cs.dropWhile (· == c)

def dropTrailing (c : Char) (cs : List Char) : List Char := (dropLeading c cs.reverse).reverse

/-- What is left of a pattern without slashes at its ends. -/
def bare (cs : List Char) : List Char := dropLeading '/' (dropTrailing '/' cs)

/-- Whether a pattern matches a file at `rel`, seen from the pattern's directory, which is called
`name`. A pattern that ends in a slash is about the directories above the file, one that starts
with a slash about the whole path, and any other one about the path or the name alone. One that
starts with an exclamation mark matches nothing. -/
def matchesAt (rel : Path) (name : List Char) (pattern : List Char) : Bool :=
  let path := rel.toString.toList
  if pattern.head? = some '!' then false
  else if pattern.getLast? = some '/' then
    rel.parts.dropLast.any fun part => Text.Glob.Matches (bare pattern) part.toList
  else if pattern.head? = some '/' then Text.Glob.Matches (dropLeading '/' pattern) path
  else if Text.Glob.Matches pattern path || Text.Glob.Matches pattern name then true
  else match pattern with
    | '*' :: '*' :: '/' :: rest => matchesAt rel name rest
    | _ =>
      if ['/', '*', '*'].isSuffixOf pattern then
        (bare (pattern.take (pattern.length - 3)) ++ ['/']).isPrefixOf path
      else false

/-- Whether a pattern that is given for the directory `base` matches a file. No pattern matches what
lies elsewhere. -/
def Matches (file : Path) (pattern : String) (base : Path) : Bool :=
  match file.relativeTo? base with
  | none => false
  | some rel => matchesAt rel file.name.toList pattern.toList

/-- The patterns of a list with commas between them, without the blanks around them. -/
def ofList (s : String) : List String :=
  ((Text.split ',' s.toList).map Text.trim).filterMap fun p =>
    if p.isEmpty then none else some (String.ofList p)

end Pattern

/-- The patterns that hold for what lies below directories. -/
abbrev IgnoreMap := List (Path × List String)

namespace IgnoreMap

def get (m : IgnoreMap) (dir : Path) : List String :=
  ((m.find? (·.1 == dir)).map (·.2)).getD []

/-- The map with more patterns for a directory. -/
def add (m : IgnoreMap) (dir : Path) (patterns : List String) : IgnoreMap :=
  if m.any (·.1 == dir) then m.map fun e => if e.1 == dir then (dir, e.2 ++ patterns) else e
  else m ++ [(dir, patterns)]

end IgnoreMap

namespace Ignore

/-- A directory and those above it, up to `target` if it is among them, and to the top otherwise. -/
def upward (target : Path) (dir : Path) : List Path :=
  if dir = target ∨ dir.names = [] then [dir] else dir :: upward target dir.parent
termination_by dir.names.length
decreasing_by
  rename_i h
  have : dir.names ≠ [] := fun e => h (Or.inr e)
  have := List.length_pos_iff.2 this
  simp [Path.parent]
  omega

/-- Why a file is left out. -/
inductive Reason where
  | given (pattern : String)
  | listed (pattern : String) (dir : Path)
deriving DecidableEq, Repr

def Reason.record (file : Path) : Reason → Record
  | given pattern => ⟨.debug, .discovery, s!"{file} matched ignore pattern {pattern}"⟩
  | listed pattern dir => ⟨.debug, .discovery, s!"{file} matched pattern '{pattern}' from {dir}"⟩

/-- The first reason why a file is left out: a given pattern, which is matched as seen from the
target, or one that is listed for a directory above the file. -/
def reason? (file target : Path) (given : List String) (map : IgnoreMap) : Option Reason :=
  match given.find? fun p => Pattern.Matches file p target with
  | some p => some (.given p)
  | none =>
    (upward target file.parent).findSome? fun dir =>
      ((map.get dir).find? fun p => Pattern.Matches file p dir).map fun p => .listed p dir

/-- Whether a file is left out. -/
def ignores (file target : Path) (given : List String) (map : IgnoreMap) : Bool :=
  (reason? file target given map).isSome

end Ignore

end TemplateLint
