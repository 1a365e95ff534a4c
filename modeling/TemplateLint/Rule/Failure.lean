import TemplateLint.Json.Basic
import TemplateLint.Text.Decimal
import TemplateLint.Text.Quoted

/-!
How a rule can fail while it works.
-/

namespace TemplateLint

/-- The kinds of errors that rules raise on their own. -/
inductive ErrorKind where
  | value | key | runtime | zeroDivision | recursion | os
  | other (label : String)
deriving DecidableEq, Repr

namespace ErrorKind

def label : ErrorKind → String
  | value => "ValueError"
  | key => "KeyError"
  | runtime => "RuntimeError"
  | zeroDivision => "ZeroDivisionError"
  | recursion => "RecursionError"
  | os => "OSError"
  | other label => label

def ofLabel (s : String) : ErrorKind :=
  ([value, key, runtime, zeroDivision, recursion, os].find? (·.label == s)).getD (.other s)

/-- The text of an error; the text of a key error is quoted. -/
def display (k : ErrorKind) (text : String) : String :=
  if k = key then Text.quoted text else text

end ErrorKind

inductive Failure where
  | raised (kind : ErrorKind) (text : String)
  /-- A document was asked for while none is linted. -/
  | noDocument
  /-- A diagnostic has wrong values in these fields. -/
  | invalid (fields : List String)
  | negativeCount
  /-- A value is of a type that cannot be used so. -/
  | wrongType (text : String)
  | noAttribute (owner name : String)
  /-- An integer is too long to be written. -/
  | longInteger
deriving DecidableEq, Repr

namespace Failure

/-- What a failure says. An error that a rule raises on its own always has a text here; making it
does not fail in turn. -/
def message : Failure → String
  | raised k text => k.display text
  | noDocument => "No document is being linted"
  | invalid fields => s!"{fields.length} validation error for Diagnostic"
  | negativeCount => "count must be non-negative"
  | wrongType text => text
  | noAttribute owner name => s!"'{owner}' object has no attribute '{name}'"
  | longInteger =>
    s!"Exceeds the limit ({Text.Decimal.maxDigits} digits) for integer string conversion; " ++
      "use sys.set_int_max_str_digits() to increase the limit"

end Failure

end TemplateLint
