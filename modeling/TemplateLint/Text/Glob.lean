/-!
Glob patterns over a whole text: `*` stands for any text, `?` for any character, `[abc]`, `[a-z]`
and `[!a-z]` for the characters of a class. A bracket that nothing closes stands for itself.

Main statement: matching from the end of a text says the same as trying all ends of what a star can
stand for (`Matches_eq`).
-/

namespace TemplateLint.Text.Glob

/-- A character class; the class is given by closed ranges of characters. -/
structure CharClass where
  negated : Bool
  ranges : List (Char × Char)
deriving DecidableEq, Repr

def CharClass.accepts (k : CharClass) (c : Char) : Bool :=
  k.negated != k.ranges.any fun r => r.1 ≤ c && c ≤ r.2

inductive Piece where
  | star
  | any
  | one (c : Char)
  | among (k : CharClass)
deriving DecidableEq, Repr

def Piece.accepts : Piece → Char → Bool
  | .star, _ => true
  | .any, _ => true
  | .one d, c => c == d
  | .among k, c => k.accepts c

/-- The inside of a class and what follows its closing bracket. A bracket in the first place, or
right after the negation, does not close the class. -/
def splitClass? (cs : List Char) : Option (List Char × List Char) :=
  let (bang, cs) := match cs with
    | '!' :: r => (['!'], r)
    | r => ([], r)
  let (bracket, cs) := match cs with
    | ']' :: r => ([']'], r)
    | r => ([], r)
  let body := cs.takeWhile (· != ']')
  match cs.dropWhile (· != ']') with
  | [] => none
  | _ :: rest => some (bang ++ bracket ++ body, rest)

/-- Cuts the inside of a class at the hyphens that stand for ranges. The first `keep` characters
of a chunk are never such a hyphen. -/
def chunks : Nat → List Char → List Char → List (List Char)
  | _, chunk, [] => [chunk.reverse]
  | keep + 1, chunk, c :: cs => chunks keep (c :: chunk) cs
  | 0, chunk, c :: cs =>
    if c = '-' then chunk.reverse :: chunks 2 [] cs else chunks 0 (c :: chunk) cs

/-- A hyphen at the end stands for itself. -/
def closeLast : List (List Char) → List (List Char)
  | [] => []
  | [c] => [c]
  | c :: [[]] => [c ++ ['-']]
  | c :: d :: ds => c :: closeLast (d :: ds)

/-- Drops the ranges that run backwards, from the last one on. -/
def dropBackward : List (List Char) → List (List Char)
  | [] => []
  | c :: cs =>
    match dropBackward cs with
    | [] => [c]
    | d :: ds =>
      match c.getLast?, d with
      | some x, y :: rest => if y < x then (c.dropLast ++ rest) :: ds else c :: d :: ds
      | _, _ => c :: d :: ds

/-- The ranges of a class: each chunk ends where a range starts, and starts where one ends. -/
def rangesOf : List Char → List (List Char) → List (Char × Char)
  | c, [] => c.map fun x => (x, x)
  | c, d :: ds =>
    match c.getLast?, d with
    | some x, y :: rest => (c.dropLast.map fun x => (x, x)) ++ (x, y) :: rangesOf rest ds
    | _, _ => (c.map fun x => (x, x)) ++ rangesOf d ds

/-- A class that is empty matches nothing; a negated empty one matches every character. -/
def classOf (inside : List Char) : CharClass :=
  let keep := if inside.head? = some '!' then 2 else 1
  match dropBackward (closeLast (chunks keep [] inside)) with
  | [] => ⟨false, []⟩
  | ('!' :: c) :: cs => ⟨true, rangesOf c cs⟩
  | c :: cs => ⟨false, rangesOf c cs⟩

/-- The pieces of a pattern; the next `skip` characters belong to a class already read. -/
def compile : Nat → List Char → List Piece
  | _, [] => []
  | skip + 1, _ :: cs => compile skip cs
  | 0, c :: cs =>
    if c = '*' then .star :: compile 0 cs
    else if c = '?' then .any :: compile 0 cs
    else if c = '[' then
      match splitClass? cs with
      | none => .one '[' :: compile 0 cs
      | some (inside, _) => .among (classOf inside) :: compile (inside.length + 1) cs
    else .one c :: compile 0 cs

/-- Every end of a text, the text itself first. -/
def suffixes : List Char → List (List Char)
  | [] => [[]]
  | c :: cs => (c :: cs) :: suffixes cs

def matchPieces : List Piece → List Char → Bool
  | [], cs => cs.isEmpty
  | .star :: ps, cs => (suffixes cs).any (matchPieces ps)
  | _ :: _, [] => false
  | p :: ps, c :: cs => p.accepts c && matchPieces ps cs

/-- For every place whether what holds there or at a later one. -/
def anyFrom : List Bool → List Bool
  | [] => []
  | b :: bs =>
    match anyFrom bs with
    | [] => [b]
    | later :: rest => (b || later) :: later :: rest

/-- For every end of a text whether a piece matches its first character and `rest` holds for what is
left. -/
def oneThen (p : Piece) : List Char → List Bool → List Bool
  | c :: cs, _ :: rest => (p.accepts c && rest.headD false) :: oneThen p cs rest
  | _, _ => [false]

/-- For every end of a text whether the pieces match it. The pieces are gone through once, from the
last one on, however many stars are among them. -/
def matchEnds : List Piece → List Char → List Bool
  | [], cs => (suffixes cs).map List.isEmpty
  | .star :: ps, cs => anyFrom (matchEnds ps cs)
  | p :: ps, cs => oneThen p cs (matchEnds ps cs)

theorem headD_map_suffixes (f : List Char → Bool) (cs : List Char) :
    ((suffixes cs).map f).headD false = f cs := by
  cases cs <;> rfl

theorem anyFrom_cons (b : Bool) (bs : List Bool) :
    anyFrom (b :: bs) = (b || (anyFrom bs).headD false) :: anyFrom bs := by
  rw [anyFrom]
  split <;> simp_all

theorem headD_anyFrom (bs : List Bool) : (anyFrom bs).headD false = bs.any id := by
  induction bs with
  | nil => rfl
  | cons b bs ih => simp only [anyFrom_cons, List.headD_cons, ih, List.any_cons, id]

theorem anyFrom_map (f : List Char → Bool) (cs : List Char) :
    anyFrom ((suffixes cs).map f) = (suffixes cs).map fun e => (suffixes e).any f := by
  induction cs with
  | nil => simp [suffixes, anyFrom]
  | cons c cs ih =>
    simp only [suffixes, List.map_cons, anyFrom_cons, headD_anyFrom, List.any_map, List.any_cons]
    rw [← ih]
    rfl

theorem oneThen_map (p : Piece) (f g : List Char → Bool) (cs : List Char) (h0 : g [] = false)
    (h : ∀ c e, g (c :: e) = (p.accepts c && f e)) :
    oneThen p cs ((suffixes cs).map f) = (suffixes cs).map g := by
  induction cs with
  | nil => simp [suffixes, oneThen, h0]
  | cons c cs ih =>
    simp only [suffixes, List.map_cons, oneThen, headD_map_suffixes, h, ih]

theorem matchEnds_eq (ps : List Piece) (cs : List Char) :
    matchEnds ps cs = (suffixes cs).map (matchPieces ps) := by
  induction ps with
  | nil => simp only [matchEnds]; congr
  | cons p ps ih =>
    cases p with
    | star => simp only [matchEnds, ih, anyFrom_map]; congr
    | any => simp only [matchEnds, ih]; exact oneThen_map _ _ _ _ rfl fun _ _ => rfl
    | one d => simp only [matchEnds, ih]; exact oneThen_map _ _ _ _ rfl fun _ _ => rfl
    | among k => simp only [matchEnds, ih]; exact oneThen_map _ _ _ _ rfl fun _ _ => rfl

def Matches (pattern text : List Char) : Bool := (matchEnds (compile 0 pattern) text).headD false

theorem Matches_eq (pattern text : List Char) :
    Matches pattern text = matchPieces (compile 0 pattern) text := by
  rw [Matches, matchEnds_eq, headD_map_suffixes]

end TemplateLint.Text.Glob

namespace TemplateLint.Text

/-- Whether the pattern stands for the whole text. -/
def globMatch (pattern text : String) : Bool := Glob.Matches pattern.toList text.toList

/-- Whether the pattern can stand for any text but itself. -/
def hasWildcard (pattern : String) : Bool :=
  pattern.toList.any fun c => c == '*' || c == '?' || c == '['

end TemplateLint.Text
