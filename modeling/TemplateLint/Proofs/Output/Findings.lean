import Mathlib.Data.List.Basic
import TemplateLint.Lint
import TemplateLint.Output.Text
import TemplateLint.Proofs.Output.Console

/-!
What people are told of a report.

The log, the text and the console choose from the log entries, the warnings and the fatal entries in
three ways: by the status of the report, by the entries that decide it, and by these if there is any
entry at all. They choose the same findings in the same order, for every mix of entries. Main
statement: `same_findings`.
-/

namespace TemplateLint

/-! ### Findings -/

/-- What people are told of a report, each at its level: the log entries, and then the fatal ones,
or the warnings when nothing is fatal. -/
def Report.findings (r : Report) : List (Level × Diagnostic) :=
  r.logs.map (Level.info, ·) ++
    if r.fatals.isEmpty then r.warnings.map (Level.warning, ·) else r.fatals.map (Level.error, ·)

namespace Report

variable (r : Report)

/-- The record of a finding. -/
def recordOf (f : Level × Diagnostic) : Record := ⟨f.1, .reporter, announce f.2⟩

lemma tell_eq_map_recordOf (level : Level) (ds : List Diagnostic) :
    tell level ds = (ds.map (level, ·)).map recordOf := by
  rw [List.map_map]
  rfl

/-- The status says whether the warnings or the fatal entries are told. -/
lemma emit_eq_map_recordOf :
    ∃ outcome, r.emit = r.findings.map recordOf ++ [⟨.debug, .reporter, outcome⟩] := by
  refine ⟨_, congrArg (· ++ _) ?_⟩
  rw [findings, List.map_append, tell_eq_map_recordOf]
  refine congrArg (_ ++ ·) ?_
  cases hfatals : r.fatals with
  | cons d ds => simp [status, hfatals, tell_eq_map_recordOf]
  | nil =>
    cases hwarnings : r.warnings with
    | cons d ds => simp [status, hfatals, hwarnings, tell_eq_map_recordOf]
    | nil => simp [status, hfatals, hwarnings]

lemma map_snd_findings : r.findings.map Prod.snd = Output.Text.shown r := by
  rw [findings, Output.Text.shown, failures, List.map_append, List.map_map]
  refine congrArg₂ (· ++ ·) (List.map_id _) ?_
  split_ifs <;> rw [List.map_map] <;> exact List.map_id _

/-- A report without findings has no entry, so that leaving it out withholds nothing. -/
lemma findings_eq_nil_iff : r.findings = [] ↔ r.diagnostics = [] := by
  rw [findings, diagnostics, List.append_assoc, List.append_eq_nil_iff, List.append_eq_nil_iff,
    List.append_eq_nil_iff, List.map_eq_nil_iff]
  refine and_congr_right fun _ => ?_
  cases r.fatals <;> simp

lemma not_mem_findings_iff {w : Diagnostic} (hw : w ∈ r.warnings) :
    (Level.warning, w) ∉ r.findings ↔ r.fatals ≠ [] := by
  rw [findings, List.mem_append, not_or, ← List.isEmpty_eq_false_iff]
  cases r.fatals.isEmpty <;> simp [hw]

end Report

namespace Output

open Report (recordOf)

/-- A report as the console shows it. -/
def Console.display (r : Report) : String :=
  Markup.plain (heading r) ++ String.join (r.findings.map fun f => entryText f.2)

lemma Console.reportText_eq (r : Report) : reportText r = display r := by
  rw [reportText, display, ← r.map_snd_findings, List.map_map]
  rfl

lemma Text.report_eq (r : Report) :
    Text.report r = String.join (r.findings.map fun f => Text.entry f.2) := by
  rw [Text.report, ← r.map_snd_findings, List.map_map]
  rfl

/-- The log, the text and the console tell of a report what its findings are. -/
structure SameFindings (r : Report) : Prop where
  /-- The log has a record for each finding and one for the outcome. -/
  logged : ∃ outcome, ∀ run, Lint.emit run r =
    (run.tell (r.findings.map recordOf ++ [⟨.debug, .reporter, outcome⟩]), r.status)
  written : Text.report r = String.join (r.findings.map fun f => Text.entry f.2)
  printed : Prints (Console.report r) (Console.display r)
  nothing : r.findings = [] ↔ r.diagnostics = []
  withheld : ∀ w ∈ r.warnings, (Level.warning, w) ∉ r.findings ↔ r.fatals ≠ []

lemma sameFindings (r : Report) : SameFindings r where
  logged := by
    obtain ⟨outcome, h⟩ := r.emit_eq_map_recordOf
    exact ⟨outcome, fun run => by rw [Lint.emit, h]⟩
  written := Text.report_eq r
  printed := by
    rw [← Console.reportText_eq]
    exact Console.prints_report r
  nothing := r.findings_eq_nil_iff
  withheld := fun _ hw => r.not_mem_findings_iff hw

/-- A fatal entry withholds the warning, and what looks like a tag is shown as it is. -/
example : Console.display {
      filename := "a.html"
      logs := [⟨.log, "counts", some 1, "x[0]", "a.html", "one tag"⟩]
      warnings := [⟨.warn, "names", some 2, "", "a.html", "short name"⟩]
      fatals := [⟨.fatal, "names", none, "", "a.html", "no name in [b]"⟩] } =
    "\na.html (fatal)\n  LOG line 1 counts one tag\n    x[0]\n" ++
      "  FATAL line ? names no name in [b]\n" := by
  decide +kernel

end Output

end TemplateLint
