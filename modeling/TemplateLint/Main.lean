import TemplateLint.CommandLine.Run

/-!
The program. It reads the files that its words name into a tree, runs on that tree, prints what
comes of it and writes what is to be written.
-/

namespace TemplateLint.Main

/-- What is in a file, if it may be opened. -/
def loadFile (p : Path) : IO Content := do
  try
    return .file (← IO.FS.readBinFile p.toString).toList
  catch _ => return .locked

/-- Adds what is under a path to a tree: a file, or a directory and everything below it. -/
partial def load (t : FileTree) (p : Path) : IO FileTree := do
  let place ← IO.FS.realPath p.toString
  if ← place.isDir then
    let t := if p.names.isEmpty then t else t.put p .directory
    (← place.readDir).foldlM (fun t e => load t (p.child e.fileName)) t
  else
    return t.put p (← loadFile p)

def isPresent (p : Path) : IO Bool := do
  try
    let _ ← IO.FS.realPath p.toString
    return true
  catch _ => return false

/-- Adds what a text may name: a directory, the directory of a file, or that of a file which is to
be written. -/
def loadNamed (t : FileTree) (s : String) : IO FileTree := do
  let p := Path.ofString s
  if ← isPresent p then
    let place ← IO.FS.realPath p.toString
    load t (if ← place.isDir then p else p.parent)
  else if !p.parent.names.isEmpty && (← isPresent p.parent) then
    return t.put p.parent .directory
  else return t

/-- The texts in a word that may name something: the word itself, and the value of an option. -/
def namesIn (word : String) : List String :=
  [word, String.ofList (word.toList.drop 2),
    String.ofList (word.toList.dropWhile (· != '=')).tail].filter (!·.isEmpty)

def environment : IO Settings.Variables := do
  let found ← Settings.variableNames.mapM fun name => do
    return (← IO.getEnv name).map fun value => (name, value)
  return found.filterMap id

end TemplateLint.Main

open TemplateLint in
def main (words : List String) : IO UInt32 := do
  let files ← (words.flatMap Main.namesIn).foldlM Main.loadNamed .empty
  let (ending, done) := CommandLine.run files (← Main.environment) words
  for r in done.log.atLeast done.level do
    IO.eprintln s!"{r.level.label} {r.message}"
  IO.print done.output
  for (path, bytes) in done.written do
    IO.FS.writeBinFile path.toString ⟨bytes.toArray⟩
  match ending with
  | .exit code => return code.toUInt32
  | .misuse u m =>
    IO.eprint (m.report u)
    return 2
  | .crash c =>
    IO.eprintln c.message
    return 1
