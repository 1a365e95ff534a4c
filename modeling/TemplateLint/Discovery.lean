import TemplateLint.FileTree.Glob
import TemplateLint.Ignore
import TemplateLint.Settings
import TemplateLint.Text.Case

/-!
Discovery: which templates a run is about, and reading them.
-/

namespace TemplateLint.Discovery

/-- Why the templates cannot be found. -/
inductive Fault where
  | pattern (f : FileTree.PatternFault)
  /-- An ignore file is not UTF-8. -/
  | undecodable (f : Text.Utf8.Fault)
deriving DecidableEq, Repr

def Fault.message : Fault → String
  | pattern f => f.message
  | undecodable f => f.message

/-- Work that tells something and may fail. -/
abbrev Telling (α : Type) := ExceptT Fault (StateM Log) α

def tell (level : Level) (message : String) : Telling Unit :=
  modify (· ++ [⟨level, .discovery, message⟩])

/-- Whether a file has one of the suffixes, whatever their case. -/
def isTemplate (file : Path) (suffixes : List String) : Bool :=
  suffixes.any fun s => Text.lowered s == Text.lowered file.suffix

/-- The text of a template, or the message why it cannot be read. -/
def readTemplate (t : FileTree) (file : Path) : Except String String :=
  let refuse (reason : String) := Except.error s!"Failed to read template {file}: {reason}"
  match t.bytes file with
  | .error f => refuse (f.message file)
  | .ok bytes =>
    match Text.Utf8.decode bytes with
    | .error f => refuse f.message
    | .ok cs => .ok (String.ofList (Text.unifyBreaks cs))

/-- The pattern in a line without blanks around it, unless that is empty or a comment. -/
def patternOf? : List Char → Option String
  | [] => none
  | '#' :: _ => none
  | line => some (String.ofList line)

/-- The patterns in the text of an ignore file. -/
def patternsIn (cs : List Char) : List String :=
  ((Text.lines (Text.unifyBreaks cs)).map Text.trim).filterMap patternOf?

/-- The patterns of an ignore file. One that cannot be opened has none. -/
def readIgnoreFile (t : FileTree) (file : Path) : Telling (List String) := do
  match t.bytes file with
  | .error f =>
    tell .warning s!"Failed to read ignore file {file}: {f.message file}"
    return []
  | .ok bytes =>
    match Text.Utf8.decodeBuffered bytes with
    | .error f => throw (.undecodable f)
    | .ok cs => return patternsIn cs

/-- Adds the patterns of ignore files to a map. -/
def addIgnoreFiles (t : FileTree) (map : IgnoreMap) : List Path → Telling IgnoreMap
  | [] => return map
  | file :: files => do
    if !t.isFile file then return ← addIgnoreFiles t map files
    let patterns ← readIgnoreFile t file
    if patterns.isEmpty then return ← addIgnoreFiles t map files
    tell .debug s!"Loaded {patterns.length} pattern(s) from {file}"
    addIgnoreFiles t (map.add file.parent patterns) files

/-- The patterns that ignore files below a directory hold, by the directories of the files. -/
def findIgnoreFiles (t : FileTree) (target : Path) (patterns : List String) :
    Telling IgnoreMap := do
  if !t.isDirectory target then return []
  patterns.foldlM (fun map pattern => do
    match t.glob target pattern with
    | .error f => throw (.pattern f)
    | .ok files => addIgnoreFiles t map files) []

/-- The files of which none is to be left out, and what is told about the others. -/
def keep (s : Settings) (target : Path) (map : IgnoreMap) : List Path → Telling (List Path)
  | [] => return []
  | file :: files => do
    match Ignore.reason? file target s.ignorePatterns map with
    | none => return file :: (← keep s target map files)
    | some r =>
      modify (· ++ [r.record file])
      keep s target map files

/-- The templates of a directory, or the one template that is given. -/
def collect (t : FileTree) (s : Settings) (target : Path) : Telling (List Path) := do
  if t.isFile target then
    let map ← findIgnoreFiles t target.parent s.ignoreFilePatterns
    let files ← keep s target.parent map [target]
    if files.isEmpty then tell .info s!"{target} is ignored by patterns"
    return files
  if !t.isDirectory target then return []
  let map ← findIgnoreFiles t target s.ignoreFilePatterns
  let files := (t.filesBelow target).filter fun f => isTemplate f s.templateSuffixes
  let files ← keep s target map files
  tell .info
    s!"Found {files.length} template(s) in {target} (after applying ignore patterns)"
  return files

end TemplateLint.Discovery
