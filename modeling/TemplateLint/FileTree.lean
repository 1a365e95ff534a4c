import TemplateLint.Path
import TemplateLint.Rule.Spec
import TemplateLint.Text.Lines
import TemplateLint.Text.Utf8

/-!
File trees: the directories and files below the working directory.
-/

namespace TemplateLint

/-- What a rule file comes to when it is loaded. -/
inductive RuleFile where
  | rule (s : Spec)
  /-- It has nothing by which a rule could be created. -/
  | noFactory
  | broken (kind : ErrorKind) (text : String)

/-- What is found under a path. -/
inductive Content where
  | directory
  | file (bytes : List UInt8)
  | rule (r : RuleFile)
  /-- A file that may not be opened. -/
  | locked

/-- The entries of a tree; every directory above an entry is an entry too. -/
structure FileTree where
  entries : List (Path × Content)

namespace FileTree

def empty : FileTree := ⟨[]⟩

def at? (t : FileTree) (p : Path) : Option Content := (t.entries.find? (·.1 == p)).map (·.2)

/-- The tree with an entry; what was there before is gone. -/
def set (t : FileTree) (p : Path) (c : Content) : FileTree :=
  ⟨t.entries.filter (·.1 != p) ++ [(p, c)]⟩

/-- The paths above a path that have a name, outermost first. -/
def above (p : Path) : List Path :=
  (List.range p.names.length).tail.map fun n => { p with names := p.names.take n }

/-- The tree with an entry and the directories above it. -/
def put (t : FileTree) (p : Path) (c : Content) : FileTree :=
  let t := (above p).foldl (fun t d => if (t.at? d).isSome then t else t.set d .directory) t
  match c with
  | .directory => if (t.at? p).isSome then t else t.set p c
  | _ => t.set p c

def ofEntries (es : List (Path × Content)) : FileTree :=
  es.foldl (fun t e => t.put e.1 e.2) empty

/-- Why nothing is found under a path, or what is found cannot be opened. -/
inductive Fault where
  | missing
  | denied
  | notDirectory
  | isDirectory
deriving DecidableEq, Repr

def Fault.number : Fault → Nat
  | .missing => 2
  | .denied => 13
  | .notDirectory => 20
  | .isDirectory => 21

def Fault.text : Fault → String
  | .missing => "No such file or directory"
  | .denied => "Permission denied"
  | .notDirectory => "Not a directory"
  | .isDirectory => "Is a directory"

/-- The message about a path. -/
def Fault.message (f : Fault) (p : Path) : String :=
  s!"[Errno {f.number}] {f.text}: {Text.quoted p.toString}"

/-- What is under a directory of the tree, given the names that lead there. `..` leads to the
directory above, which has a name if the directory has one. -/
def follow (t : FileTree) : Path → List String → Except Fault (Path × Content)
  | p, [] =>
    if p.names.isEmpty then .ok (p, .directory)
    else match t.at? p with
      | some c => .ok (p, c)
      | none => .error .missing
  | p, n :: ns =>
    if p.names.isEmpty then step p n ns
    else match t.at? p with
      | some .directory => step p n ns
      | some _ => .error .notDirectory
      | none => .error .missing
where
  step (p : Path) (n : String) (ns : List String) : Except Fault (Path × Content) :=
    if n == ".." then
      if p.names.isEmpty && p.anchor != .here then follow t p ns
      else if p.names.isEmpty || p.name == ".." then follow t (p.child n) ns
      else follow t p.parent ns
    else follow t (p.child n) ns

/-- What is found under a path, and the path without `..`. -/
def find (t : FileTree) (p : Path) : Except Fault (Path × Content) :=
  t.follow ⟨p.anchor, []⟩ p.names

def holds (t : FileTree) (p : Path) : Bool := (t.find p).isOk

def isDirectory (t : FileTree) (p : Path) : Bool :=
  match t.find p with
  | .ok (_, .directory) => true
  | _ => false

def isFile (t : FileTree) (p : Path) : Bool :=
  match t.find p with
  | .ok (_, .directory) => false
  | .ok _ => true
  | .error _ => false

/-- Whether a path is that of an entry in a directory. `..` is in no directory. -/
def isIn (p d : Path) : Bool := !p.names.isEmpty && p.parent == d && p.name != ".."

/-- The names in a directory, in the order of the entries. -/
def names (t : FileTree) (p : Path) : List String :=
  match t.find p with
  | .ok (d, .directory) => (t.entries.filter fun e => isIn e.1 d).map (·.1.name)
  | _ => []

/-- The bytes of a file. -/
def bytes (t : FileTree) (p : Path) : Except Fault (List UInt8) :=
  match t.find p with
  | .ok (_, .file bs) => .ok bs
  | .ok (_, .rule _) => .ok []
  | .ok (_, .locked) => .error .denied
  | .ok (_, .directory) => .error .isDirectory
  | .error f => .error f

/-- The tree with a file under a path, instead of the file that was there. What is above the path
must be a directory. -/
def place (t : FileTree) (p : Path) (c : Content) : Except Fault FileTree :=
  match t.find p with
  | .ok (_, .directory) => .error .isDirectory
  | .ok (q, _) => .ok (t.set q c)
  | .error .missing =>
    match t.find p.parent with
    | .ok (d, .directory) => .ok (t.set (d.child p.name) c)
    | .ok _ => .error .notDirectory
    | .error f => .error f
  | .error f => .error f

/-- The tree with bytes written to a file, if the file may be opened or is new. -/
def write (t : FileTree) (p : Path) (bytes : List UInt8) : Except Fault FileTree :=
  match t.find p with
  | .ok (_, .locked) => .error .denied
  | _ => t.place p (.file bytes)

/-- The levels of the tree. -/
def depth (t : FileTree) : Nat := (t.entries.map fun e => e.1.names.length).foldl max 0

end FileTree

end TemplateLint
