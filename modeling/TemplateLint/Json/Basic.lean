import TemplateLint.Number.Double

/-!
JSON values. An object keeps its members in the order in which they were written. A number with a
point or an exponent is held in double precision, whatever its value.
-/

namespace TemplateLint

inductive Json where
  | null
  | bool (b : Bool)
  | int (i : Int)
  | float (x : Double)
  | str (s : String)
  | arr (xs : List Json)
  | obj (members : List (String × Json))
deriving Repr, Inhabited, BEq

namespace Json

/-- The value of the last member with a key. -/
def get? (key : String) : Json → Option Json
  | .obj ms => (ms.reverse.find? (·.1 == key)).map (·.2)
  | _ => none

def str? : Json → Option String
  | .str s => some s
  | _ => none

def arr? : Json → Option (List Json)
  | .arr xs => some xs
  | _ => none

def ofOption {α : Type} (f : α → Json) : Option α → Json
  | some a => f a
  | none => .null

/-- The integer that a number denotes, however it is written. -/
def integral? : Json → Option Int
  | .int i => some i
  | .float x => x.integral?
  | _ => none

/-- The integer that a number or a truth value counts as. -/
def count? : Json → Option Int
  | .bool b => some (if b then 1 else 0)
  | j => j.integral?

end Json

end TemplateLint
