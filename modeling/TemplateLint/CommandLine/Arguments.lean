import TemplateLint.CommandLine.Usage

/-!
Reading the words that a command is called with. Options are told from other words first; then the
values of the options are checked, in the order in which the options were given, and the argument.
-/

namespace TemplateLint.CommandLine

/-- The name of the option that shows the help. -/
def helpName : String := "--help"

def helpOption : Switch := ⟨[helpName], .nothing⟩

/-- An option that was given, with its value, which is empty if it takes none. -/
structure Given where
  option : Switch
  value : String

/-- The words that a command is called with. -/
structure Words where
  given : List Given := []
  /-- The words that are no options. -/
  rest : List String := []

namespace Usage

def switches (u : Usage) : List Switch := u.options ++ [helpOption]

def isLong (name : String) : Bool := name.startsWith "--"

def longNames (u : Usage) : List String := (u.switches.flatMap (·.names)).filter isLong

def find? (u : Usage) (name : String) : Option Switch := u.switches.find? (·.names.contains name)

/-- Reads options of one letter that are written together, `next` being the word that follows. Tells
whether that word is the value of the last one. -/
def readLetters (u : Usage) (next : Option String) :
    List Char → Except Misuse (List Given × Bool)
  | [] => .ok ([], false)
  | c :: cs =>
    let name := String.ofList ['-', c]
    match u.find? name with
    | none => .error (.unknownOption name [])
    | some o =>
      if o.values = .nothing then do
        let (given, used) ← u.readLetters next cs
        return (⟨o, ""⟩ :: given, used)
      else
        match cs, next with
        | [], none => .error (.valueMissing name)
        | [], some value => .ok ([⟨o, value⟩], true)
        | cs, _ => .ok ([⟨o, String.ofList cs⟩], false)

/-- Reads a word with options. A long option may have its value behind an equals sign. -/
def readOptions (u : Usage) (word : String) (next : Option String) :
    Except Misuse (List Given × Bool) :=
  let cs := word.toList
  let name := String.ofList (cs.takeWhile (· != '='))
  let value := (cs.dropWhile (· != '=')).tail?.map String.ofList
  match (if isLong name then u.find? name else none) with
  | none =>
    if isLong word then .error (.unknownOption name (Text.likest u.longNames name))
    else u.readLetters next cs.tail
  | some o =>
    if o.values = .nothing then
      if value.isSome then .error (.valueGiven name) else .ok ([⟨o, ""⟩], false)
    else
      match value, next with
      | some v, _ => .ok ([⟨o, v⟩], false)
      | none, some v => .ok ([⟨o, v⟩], true)
      | none, none => .error (.valueMissing name)

/-- Whether a word holds options: a hyphen alone does not. -/
def holdsOptions (word : String) : Bool := word.startsWith "-" && word != "-"

/-- Tells options from other words. Two hyphens end the options. -/
def readWords (u : Usage) : List String → Words → Except Misuse Words
  | [], w => .ok w
  | word :: words, w =>
    if word = "--" then .ok { w with rest := w.rest ++ words }
    else if holdsOptions word then
      match u.readOptions word words.head? with
      | .error e => .error e
      | .ok (given, used) =>
        u.readWords (if used then words.tail else words) { w with given := w.given ++ given }
    else if u.leads then .ok { w with rest := w.rest ++ word :: words }
    else u.readWords words { w with rest := w.rest ++ [word] }
termination_by words => words.length
decreasing_by
  · split <;> simp only [List.length_tail, List.length_cons] <;> omega
  · simp

end Usage

/-- What is under the path that a text writes. A text that ends in a slash, or in a dot after one,
writes the path of a directory. -/
def contentAt? (t : FileTree) (s : String) : Option Content :=
  if s.isEmpty then none
  else
    match t.find (Path.ofString s) with
    | .error _ => none
    | .ok (_, .directory) => some .directory
    | .ok (_, c) => if s.endsWith "/" || s.endsWith "/." then none else some c

def checkPath (t : FileTree) (parameter : List String) (target : Target) (s : String) :
    Except Misuse Unit :=
  match contentAt? t s, target with
  | none, _ => .error (.badPath parameter s target .absent)
  | some .directory, .file => .error (.badPath parameter s target .isDirectory)
  | some .directory, _ => .ok ()
  | some _, .directory => .error (.badPath parameter s target .isFile)
  | some .locked, _ => .error (.badPath parameter s target .locked)
  | some _, _ => .ok ()

/-- Checks the value of an option, and gives names the case in which they are known. -/
def checkValue (t : FileTree) (o : Switch) (value : String) : Except Misuse String :=
  match o.values with
  | .nothing | .text => .ok value
  | .name among =>
    match among.find? fun n => Text.isFolded value (Text.lowered n) with
    | some n => .ok n
    | none => .error (.unknownName o.names value among)
  | .existing target => (checkPath t o.names target value).map fun () => value

/-- The arguments of a command. -/
structure Arguments where
  /-- The values of options, by their names. -/
  values : List (String × String)
  argument : String
  /-- The words that follow. -/
  rest : List String

namespace Arguments

def value? (a : Arguments) (name : String) : Option String :=
  (a.values.find? (·.1 == name)).map (·.2)

def has (a : Arguments) (name : String) : Bool := (a.value? name).isSome

end Arguments

/-- What a command is asked for. -/
inductive Request where
  | help
  | run (a : Arguments)

namespace Usage

/-- The values of options that were given; the last one of an option counts. -/
def valuesOf (t : FileTree) (given : List Given) : Except Misuse (List (String × String)) :=
  let names := (given.map (·.option.name)).eraseDups
  (names.filterMap fun n => given.reverse.find? (·.option.name == n)).mapM fun g => do
    return (g.option.name, ← checkValue t g.option g.value)

/-- The argument and the words behind it. -/
def argumentOf (t : FileTree) (u : Usage) (rest : List String) :
    Except Misuse (String × List String) :=
  match u.argument, rest with
  | none, rest => .ok ("", rest)
  | some a, [] => .error (.argumentMissing a.name)
  | some a, word :: rest => (checkPath t [a.name] a.target word).map fun () => (word, rest)

/-- Reads the words that a command is called with. -/
def read (u : Usage) (t : FileTree) (words : List String) : Except Misuse Request := do
  let w ← u.readWords words {}
  if w.given.any (·.option.name == helpName) then return .help
  let values ← valuesOf t w.given
  let (argument, rest) ← u.argumentOf t w.rest
  if !u.leads && !rest.isEmpty then throw (.tooMany rest)
  return .run ⟨values, argument, rest⟩

end Usage

end TemplateLint.CommandLine
