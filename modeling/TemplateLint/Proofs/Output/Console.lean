import Mathlib.Data.List.Basic
import TemplateLint.Output.Console
import TemplateLint.Proofs.Output.Markup

/-!
What the console prints of reports.

Printing breaks off at a text that cannot be shown. No text about a report is of this kind, whatever
its rules, messages, sources and file names are: these are escaped, and the styles around them are
sound. So the reports are always printed to their end. Main statement: `prints_reports`.
-/

namespace TemplateLint.Output

/-- The work prints a text, and goes to its end. -/
def Prints (p : Printing Unit) (t : String) : Prop := ∀ s, p.run.run s = (.ok (), s ++ t)

namespace Prints

lemma nothing : Prints (pure ()) "" := fun s => by rw [String.append_empty]; rfl

lemma andThen {p q : Printing Unit} {t u : String} (hp : Prints p t) (hq : Prints q u) :
    Prints (do p; q) (t ++ u) := by
  intro s
  have hrun : (do p; q : Printing Unit).run.run s = q.run.run (s ++ t) := by
    rw [ExceptT.run_bind, StateT.run_bind, hp s]
    rfl
  rw [hrun, hq, String.append_assoc]

/-- A loop prints what its rounds print. -/
lemma forIn {α : Type} {f : α → Printing Unit} {text : α → String} (xs : List α)
    (h : ∀ x ∈ xs, Prints (f x) (text x)) :
    Prints (do for x in xs do f x) (String.join (xs.map text)) := by
  induction xs with
  | nil => simpa using nothing
  | cons x xs ih =>
    obtain ⟨hx, hxs⟩ := List.forall_mem_cons.1 h
    rw [List.map_cons, String.join_cons]
    simpa using andThen hx (by simpa using ih hxs)

end Prints

namespace Console

open Markup

lemma prints_print {m : String} (h : Settles m.toList) : Prints (print m) (plain m) := by
  intro s
  rw [print, shown_of_settles h]
  rfl

/-! ### Texts about a report -/

/-- The styles in texts about reports. -/
def styles : List String := ["dim", "yellow", "bold red", "cyan", "bold", "green"]

lemma isStyle_of_mem {style : String} (h : style ∈ styles) : IsStyle style.toList where
  opens := by revert style; decide
  closes := by revert style; decide
  starts := by revert style; decide
  trimmed := by revert style; decide
  unequal := by revert style; decide
  named := by revert style; decide +kernel
  sound := by revert style; decide +kernel

lemma styleOf_mem (s : Severity) : styleOf s ∈ styles := by cases s <;> decide

lemma toList_styled (style s : String) :
    (styled style s).toList =
      bracketed style.toList ++ (s.toList ++ bracketed ('/' :: style.toList)) := by
  simp [styled, bracketed, toString]

lemma unmarked_toString (n : Int) : Unmarked (toString n).toList := by
  have hrepr (m : Nat) : Unmarked m.repr.toList := by
    intro c hc
    rw [Nat.toList_repr] at hc
    have hdigit := Nat.isDigit_of_mem_toDigits (by omega) (by omega) hc
    constructor <;> rintro rfl <;> exact absurd hdigit (by decide)
  cases n with
  | ofNat m => exact hrepr m
  | negSucc m =>
    have h : (toString (Int.negSucc m)).toList = '-' :: (m + 1).repr.toList := by
      rw [show toString (Int.negSucc m) = "-" ++ (m + 1).repr from rfl, String.toList_append]
      rfl
    rw [h]
    exact List.forall_mem_cons.2 ⟨by decide, hrepr _⟩

/-- An escaped text can be given any of the styles. -/
lemma settles_styled {style s : String} {ds : List Char} (hstyle : style ∈ styles)
    (hs : Inert s.toList) (hds : Settles ds) : Settles ((styled style s).toList ++ ds) := by
  rw [toList_styled, List.append_assoc, List.append_assoc]
  exact hds.styled (isStyle_of_mem hstyle) hs

/-- Each text that is printed of a diagnostic can be shown. -/
lemma settles_of_mem_entry {d : Diagnostic} {m : String} (h : m ∈ entry d) :
    Settles m.toList := by
  have hline : Unmarked (lineText d.line).toList := by
    cases d.line with
    | none => decide
    | some n => exact unmarked_toString n
  rcases List.mem_cons.1 h with rfl | hsource
  · have hlabel : Inert d.severity.label.toList := by
      cases d.severity <;> exact Unmarked.inert (by decide)
    have hmessage : Settles (" ".toList ++ (escape d.message).toList) :=
      (inert_escape _).settles.append (by decide)
    have hrule : Settles ((styled "cyan" (escape d.rule)).toList ++ _) :=
      settles_styled (by decide) (inert_escape d.rule) hmessage
    have hbetween : Unmarked (" line ".toList ++ ((lineText d.line).toList ++ " ".toList)) :=
      .append (by decide) (hline.append (by decide))
    have hall : Settles ("  ".toList ++ _) :=
      (settles_styled (styleOf_mem d.severity) hlabel (hrule.append hbetween)).append (by decide)
    simpa [toString] using hall
  · split_ifs at hsource
    · exact absurd hsource List.not_mem_nil
    · rw [List.mem_singleton.1 hsource, String.toList_append,
        ← List.append_nil (styled _ _).toList]
      exact (settles_styled (by decide) (inert_escape _) settles_nil).append (by decide)

lemma settles_heading (x : Report) : Settles (heading x).toList := by
  have hstatus : Unmarked (" (" ++ x.status.text ++ ")").toList := by cases x.status <;> decide
  have h : (heading x).toList = "\n".toList ++
      ((styled "bold" (escape x.filename)).toList ++ (" (" ++ x.status.text ++ ")").toList) := by
    simp [heading, toString]
  rw [h]
  exact (settles_styled (by decide) (inert_escape _) hstatus.inert.settles).append (by decide)

lemma settles_noFindings : Settles noFindings.toList := by
  rw [noFindings, String.toList_append, ← List.append_nil (styled _ _).toList]
  exact (settles_styled (by decide) (Unmarked.inert (by decide)) settles_nil).append (by decide)

/-! ### Reports -/

/-- A diagnostic as it stands on the console. -/
def entryText (d : Diagnostic) : String := String.join ((entry d).map plain)

lemma prints_diagnostic (d : Diagnostic) : Prints (diagnostic d) (entryText d) :=
  Prints.forIn (entry d) fun _ hm => prints_print (settles_of_mem_entry hm)

/-- A report as it stands on the console. -/
def reportText (x : Report) : String :=
  plain (heading x) ++ String.join ((Text.shown x).map entryText)

lemma prints_report (x : Report) : Prints (report x) (reportText x) :=
  (prints_print (settles_heading x)).andThen
    (Prints.forIn (Text.shown x) fun d _ => prints_diagnostic d)

/-- Reports as they stand on the console. -/
def reportsText (told : List Report) : String :=
  if told.isEmpty then plain noFindings else String.join (told.map reportText)

/-- **The reports that have entries are printed to their end, one after the other.** -/
theorem prints_reports (r : Results) :
    Prints (reports r) (reportsText (r.reports.filter fun x => !x.diagnostics.isEmpty)) := by
  have h (told : List Report) : Prints (do
      if told.isEmpty then print noFindings
      for x in told do report x) (reportsText told) := by
    cases told with
    | nil => simpa [reportsText] using prints_print settles_noFindings
    | cons x xs => simpa [reportsText] using Prints.forIn (x :: xs) fun x _ => prints_report x
  exact h _

end Console

end TemplateLint.Output
