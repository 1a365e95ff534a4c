import TemplateLint.FileTree
import TemplateLint.Text.Glob

/-!
Finding paths by patterns. A pattern has components like a path: `**` stands for a directory and all
directories below it, a component with wildcards for the names that it matches, and any other one
for itself.
-/

namespace TemplateLint.FileTree

/-- Why a text is no pattern. -/
inductive PatternFault where
  | empty
  | absolute
  /-- `**` stands beside other characters. -/
  | mixedStars
  /-- There is no component. -/
  | noComponent
  /-- There is nothing before the last slash. -/
  | onlySlash
deriving DecidableEq, Repr

def PatternFault.message : PatternFault → String
  | empty => "Unacceptable pattern: ''"
  | absolute => "Non-relative patterns are unsupported"
  | mixedStars => "Invalid pattern: '**' can only be an entire path component"
  | noComponent => "tuple index out of range"
  | onlySlash => "nothing stands before the last slash"

inductive Component where
  | everywhere
  | wild (pattern : String)
  | exact (name : String)
deriving DecidableEq, Repr

/-- The components of a pattern, and whether only directories are looked for. -/
structure GlobPattern where
  components : List Component
  directories : Bool
deriving DecidableEq, Repr

def hasDoubleStar : List Char → Bool
  | '*' :: '*' :: _ => true
  | _ :: cs => hasDoubleStar cs
  | [] => false

def componentOf (s : String) : Except PatternFault Component :=
  if s == "**" then .ok .everywhere
  else if hasDoubleStar s.toList then .error .mixedStars
  else if Text.hasWildcard s then .ok (.wild s)
  else .ok (.exact s)

/-- Reads a pattern. -/
def GlobPattern.ofString (s : String) : Except PatternFault GlobPattern := do
  let p := Path.ofString s
  let slash := s.toList.getLast? == some '/'
  if s.isEmpty then throw .empty
  if p.anchor != .here then throw .absolute
  if p.names.isEmpty then throw (if slash then .onlySlash else .noComponent)
  return ⟨← p.names.mapM componentOf, slash⟩

/-- A directory and those below it, down to the given number of levels. -/
def directoriesFrom (t : FileTree) : Nat → Path → List Path
  | 0, p => [p]
  | levels + 1, p =>
    p :: ((t.names p).map p.child).flatMap fun c =>
      if t.isDirectory c then directoriesFrom t levels c else []

/-- What components lead to from a directory. -/
def select (t : FileTree) : List Component → Bool → Path → List Path
  | [], _, p => [p]
  | .everywhere :: cs, only, p =>
    ((t.directoriesFrom t.depth p).flatMap (select t cs only)).eraseDups
  | .wild pattern :: cs, only, p =>
    let found := ((t.names p).filter (Text.globMatch pattern)).map p.child
    (found.filter fun c => (cs.isEmpty && !only) || t.isDirectory c).flatMap (select t cs only)
  | .exact name :: cs, only, p =>
    let c := p.child name
    if (if cs.isEmpty && !only then t.holds c else t.isDirectory c) then select t cs only c else []

/-- The paths below a directory that a pattern stands for, in order. -/
def glob (t : FileTree) (dir : Path) (pattern : String) : Except PatternFault (List Path) := do
  let p ← GlobPattern.ofString pattern
  return if t.isDirectory dir then Path.sort (t.select p.components p.directories dir) else []

/-- The files at any level below a directory, in order. -/
def filesBelow (t : FileTree) (dir : Path) : List Path :=
  Path.sort (((t.directoriesFrom t.depth dir).flatMap fun d =>
    (t.names d).map d.child).filter t.isFile)

end TemplateLint.FileTree
