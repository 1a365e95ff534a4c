import TemplateLint.Output.Sarif
import TemplateLint.Proofs.FileTree.Listing
import TemplateLint.Proofs.Json.RoundTrip

/-!
What results in the interchange format say.

Every diagnostic has its result, in order, from which it is recovered; and the driver lists each
rule that a result names, once and in order. A line of a diagnostic is a positive number, since a
line that is zero has no region. Main statement: `results_lossless`.
-/

namespace TemplateLint

lemma Severity.ofText?_text (s : Severity) : ofText? s.text = some s := by
  cases s <;> decide

namespace Output.Sarif

open TemplateLint (Json)
open TemplateLint.Json (Plain Fits parseWithin?)

variable {r : Results} {limit : Option Nat} {names : List String} {n : String} {d : Diagnostic}

/-! ### Rules -/

lemma mem_sortedNames : n ∈ sortedNames names ↔ n ∈ names := by
  rw [sortedNames, List.mem_mergeSort, List.mem_eraseDups]

/-- **The names of rules are strictly increasing.** -/
theorem pairwise_lt_sortedNames (names : List String) :
    (sortedNames names).Pairwise (· < ·) := by
  have hnodup : (sortedNames names).Nodup :=
    (List.mergeSort_perm _ _).nodup_iff.2 (FileTree.nodup_eraseDups names)
  have hle : (sortedNames names).Pairwise (· ≤ ·) := List.pairwise_mergeSort' _ _
  exact (hle.and hnodup).imp fun h => lt_of_le_of_ne h.1 h.2

/-! ### Reading a document -/

/-- The value below keys. -/
def below? (j : Json) (keys : List String) : Option Json := keys.foldlM (fun j key => j.get? key) j

def textBelow? (j : Json) (keys : List String) : Option String := (below? j keys).bind Json.str?

def itemsBelow? (j : Json) (keys : List String) : Option (List Json) :=
  (below? j keys).bind Json.arr?

/-- The only run of a document. -/
def run? (j : Json) : Option Json := (itemsBelow? j ["runs"]).bind List.head?

/-- The rules that the driver of a document lists. -/
def rules? (j : Json) : Option (List Json) := do
  itemsBelow? (← run? j) ["tool", "driver", "rules"]

/-- The results that a document lists. -/
def entries? (j : Json) : Option (List Json) := do itemsBelow? (← run? j) ["results"]

/-- The place of a result. -/
def place? (e : Json) : Option Json := do
  below? (← (← itemsBelow? e ["locations"]).head?) ["physicalLocation"]

def region? (e : Json) : Option Json := do below? (← place? e) ["region"]

def ruleId? (e : Json) : Option String := textBelow? e ["ruleId"]

def level? (e : Json) : Option String := textBelow? e ["level"]

/-- The diagnostic that a result tells of. -/
def diagnostic? (e : Json) : Option Diagnostic := do
  let severity ← (← textBelow? e ["properties", "severity"]) |> Severity.ofText?
  let rule ← ruleId? e
  let line := (region? e).bind fun region => (below? region ["startLine"]).bind Json.integral?
  let source ← textBelow? e ["properties", "source"]
  let filename ← textBelow? (← place? e) ["artifactLocation", "uri"]
  let message ← textBelow? e ["message", "text"]
  return { severity, rule, line, source, filename, message }

lemma ruleId?_result (d : Diagnostic) : ruleId? (result d) = some d.rule := rfl

lemma level?_result (d : Diagnostic) : level? (result d) = some (level d.severity) := rfl

/-- The region of a line. -/
def regionAt (n : Int) : Json := .obj [("startLine", .int n), ("startColumn", .int 1)]

/-- The place of a diagnostic on a line, or on none. -/
def placeOf (d : Diagnostic) : Json :=
  .obj (("artifactLocation", .obj [("uri", .str d.filename), ("uriBaseId", .str "%SRCROOT%")]) ::
    d.line.toList.map fun n => ("region", regionAt n))

lemma place?_result (h : ∀ n ∈ d.line, 1 ≤ n) : place? (result d) = some (placeOf d) := by
  have hline : d.line.filter (· ≠ 0) = d.line := by
    cases hd : d.line with
    | none => rfl
    | some n =>
      have hn : n ≠ 0 := by
        have hpos := h n hd
        omega
      simp [Option.filter, hn]
  have hlocation : location d = .obj [("physicalLocation", placeOf d)] := by
    rw [location, hline]
    rfl
  rw [result, hlocation]
  rfl

lemma region?_result (h : ∀ n ∈ d.line, 1 ≤ n) :
    region? (result d) = d.line.map regionAt := by
  simp only [region?, place?_result h, Option.bind_eq_bind, Option.bind_some]
  cases hline : d.line <;>
  · rw [placeOf, hline]
    rfl

lemma filename?_placeOf (d : Diagnostic) :
    textBelow? (placeOf d) ["artifactLocation", "uri"] = some d.filename := by
  cases hline : d.line <;>
  · rw [placeOf, hline]
    rfl

/-- **A diagnostic is recovered from its result.** -/
theorem diagnostic?_result (h : ∀ n ∈ d.line, 1 ≤ n) : diagnostic? (result d) = some d := by
  have hseverity : textBelow? (result d) ["properties", "severity"] = some d.severity.text := rfl
  have hsource : textBelow? (result d) ["properties", "source"] = some d.source := rfl
  have hmessage : textBelow? (result d) ["message", "text"] = some d.message := rfl
  have hline : ((region? (result d)).bind fun region =>
      (below? region ["startLine"]).bind Json.integral?) = d.line := by
    rw [region?_result h]
    cases d.line <;> rfl
  simp [diagnostic?, hseverity, Severity.ofText?_text, ruleId?_result, hline, hsource,
    place?_result h, filename?_placeOf, hmessage]

lemma level_eq_error_iff (s : Severity) : level s = "error" ↔ s = .fatal := by
  cases s <;> decide

lemma level_eq_warning_iff (s : Severity) : level s = "warning" ↔ s = .warn := by
  cases s <;> decide

lemma level_eq_note_iff (s : Severity) : level s = "note" ↔ s = .log := by
  cases s <;> decide

/-- A result tells of a diagnostic: it holds all of it, in the words of the format. -/
structure Tells (d : Diagnostic) (e : Json) : Prop where
  recovered : diagnostic? e = some d
  ruleId : ruleId? e = some d.rule
  error : level? e = some "error" ↔ d.severity = .fatal
  warning : level? e = some "warning" ↔ d.severity = .warn
  note : level? e = some "note" ↔ d.severity = .log
  region : region? e = none ↔ d.line = none

lemma tells_result (h : ∀ n ∈ d.line, 1 ≤ n) : Tells d (result d) where
  recovered := diagnostic?_result h
  ruleId := rfl
  error := by rw [level?_result, Option.some_inj, level_eq_error_iff]
  warning := by rw [level?_result, Option.some_inj, level_eq_warning_iff]
  note := by rw [level?_result, Option.some_inj, level_eq_note_iff]
  region := by rw [region?_result h, Option.map_eq_none_iff]

/-! ### Writing and reading back -/

lemma plain_location (d : Diagnostic) : Plain none (location d) := by
  simp only [location, Json.plain_obj, List.forall_mem_cons, List.forall_mem_map]
  simp [Json.fits_none]

lemma plain_result (d : Diagnostic) : Plain none (result d) := by
  simp [result, plain_location]

lemma plain_driver (names : List String) : Plain none (driver names) := by
  simp [driver, descriptor]

lemma plain_document (r : Results) : Plain none (document r) := by
  simp [document, plain_driver, plain_result]

lemma parse_results (r : Results) (pretty : Bool) :
    parseWithin? none (results r pretty) = some (document r) := by
  cases pretty with
  | true => exact Json.parse_render (Json.faithful_indented false) (plain_document r)
  | false => exact Json.parse_render (Json.faithful_dense false) (plain_document r)

/-- The results that are listed tell of all diagnostics, and the rules that are listed are those of
the results. -/
structure Lossless (ds : List Diagnostic) (ids : List String) (entries : List Json) : Prop where
  /-- Results and diagnostics correspond in order, one to one. -/
  tells : List.Forall₂ Tells ds entries
  increasing : ids.Pairwise (· < ·)
  /-- A rule that is listed is that of a result. -/
  used : ∀ id ∈ ids, ∃ e ∈ entries, ruleId? e = some id
  /-- The rule of a result is listed exactly once. -/
  listed : ∀ e ∈ entries, ∀ id ∈ ruleId? e, ids.count id = 1

lemma lossless (h : ∀ d ∈ r.diagnostics, ∀ n ∈ d.line, 1 ≤ n) :
    Lossless r.diagnostics (sortedNames (r.diagnostics.map (·.rule)))
      (r.diagnostics.map result) where
  tells := by
    rw [List.forall₂_map_right_iff, List.forall₂_same]
    exact fun d hd => tells_result (h d hd)
  increasing := pairwise_lt_sortedNames _
  used := by
    intro id hid
    obtain ⟨d, hd, rfl⟩ := List.mem_map.1 (mem_sortedNames.1 hid)
    exact ⟨result d, List.mem_map_of_mem hd, rfl⟩
  listed := by
    intro e he id hid
    obtain ⟨d, hd, rfl⟩ := List.mem_map.1 he
    obtain rfl := Option.some.inj hid
    have hnodup : (sortedNames (r.diagnostics.map (·.rule))).Nodup :=
      (pairwise_lt_sortedNames _).imp fun hlt => ne_of_lt hlt
    exact List.count_eq_one_of_mem hnodup (mem_sortedNames.2 (List.mem_map_of_mem hd))

/-- **Results in the interchange format are told without loss.** If no diagnostic is on a line below
the first, the text is read back, whatever its layout, as a document with a result for every
diagnostic, in the order of the reports, and in each of them of log entries, warnings and fatal
entries. -/
theorem results_lossless (h : ∀ d ∈ r.diagnostics, ∀ n ∈ d.line, 1 ≤ n) (pretty : Bool) :
    ∃ j rules ids entries, parseWithin? none (results r pretty) = some j ∧
      rules? j = some rules ∧ rules.map (textBelow? · ["id"]) = ids.map some ∧
      entries? j = some entries ∧
      Lossless (r.reports.flatMap fun x => x.logs ++ x.warnings ++ x.fatals) ids entries := by
  refine ⟨document r, _, _, _, parse_results r pretty, rfl, ?_, rfl, lossless h⟩
  rw [List.map_map]
  rfl

/-- A result for a log entry on a line, and one for a fatal entry without a line. -/
def sample : Results where
  reports := [{
    filename := "a.html"
    logs := [⟨.log, "names", some 2, "a", "a.html", "\"a\" is used"⟩]
    warnings := []
    fatals := [⟨.fatal, "blocks", none, "", "a.html", "no block"⟩]}]

theorem results_lossless_sample : (∀ d ∈ sample.diagnostics, ∀ n ∈ d.line, 1 ≤ n) ∧
    ∃ j rules ids entries, parseWithin? none (results sample false) = some j ∧
      rules? j = some rules ∧ rules.map (textBelow? · ["id"]) = ids.map some ∧
      entries? j = some entries ∧
      Lossless (sample.reports.flatMap fun x => x.logs ++ x.warnings ++ x.fatals) ids entries := by
  have hlines : ∀ d ∈ sample.diagnostics, ∀ n ∈ d.line, 1 ≤ n := by decide
  exact ⟨hlines, results_lossless hlines false⟩

end Output.Sarif

end TemplateLint
