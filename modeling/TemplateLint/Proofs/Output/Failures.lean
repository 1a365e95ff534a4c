import TemplateLint.Output.Text
import TemplateLint.Proofs.Output.Json
import TemplateLint.Proofs.Output.Sarif

/-!
Failures in the output.

A template that could not be linted makes a run fail, and two of the three formats tell of it: the
text and JSON carry its path and the reason, so a run with a failure never has the output of the
run without it. The interchange format is written from the reports alone. Main statement:
`failures_told`.
-/

namespace TemplateLint

variable {r r' : Results} {f : Path × String}

def Results.without (r : Results) (f : Path × String) : Results :=
  { r with failed := r.failed.erase f }

namespace Output

/-! ### Text -/

lemma Text.toList_results (r : Results) : (Text.results r).toList =
    (String.join (r.reports.map Text.report)).toList ++
      r.failed.flatMap fun f => (Text.failure f).toList := by
  rw [Text.results, String.toList_append, String.toList_join (l := r.failed.map Text.failure),
    List.flatMap_map]

/-- The text of a failure is part of the text of the results. -/
lemma Text.failure_isInfix (hf : f ∈ r.failed) :
    (Text.failure f).toList <:+: (Text.results r).toList := by
  obtain ⟨before, after, hsplit⟩ := List.append_of_mem hf
  rw [Text.toList_results, hsplit, List.flatMap_append, List.flatMap_cons, ← List.append_assoc,
    ← List.append_assoc]
  exact List.infix_append _ _ _

/-- Without a failure the text is shorter. -/
lemma Text.results_without_ne (hf : f ∈ r.failed) :
    Text.results r ≠ Text.results (r.without f) := by
  intro h
  have hlength := congrArg (fun s => s.toList.length) h
  have hperm := ((List.perm_cons_erase hf).flatMap_right fun f => (Text.failure f).toList).length_eq
  have hreason : 0 < (Text.failure f).toList.length := by
    have hlabel : 0 < (toString "\nERROR: ").toList.length := by decide
    rw [Text.failure]
    simp only [String.toList_append, List.length_append]
    omega
  simp only [Text.toList_results, List.length_append, List.flatMap_cons, Results.without]
    at hlength hperm
  omega

/-! ### JSON -/

/-- The failures that a document lists, as texts. -/
def Json.failures? (j : TemplateLint.Json) : Option (List TemplateLint.Json) :=
  (j.get? "parse_errors").bind TemplateLint.Json.arr?

lemma Json.results_without_ne (hf : f ∈ r.failed) (pretty : Bool) :
    Json.results r pretty ≠ Json.results (r.without f) pretty := by
  intro h
  have hread := Json.parse_results (Json.readable_none r) pretty
  rw [h, Json.parse_results (Json.readable_none _) pretty] at hread
  have hfailures := congrArg (·.bind Json.failures?) hread
  have hmap : (r.without f).failed.map Json.failure = r.failed.map Json.failure :=
    Option.some.inj hfailures
  have hcount := congrArg List.length hmap
  have herase := List.length_erase_of_mem hf
  have hpos := List.length_pos_of_mem hf
  simp only [List.length_map, Results.without] at hcount
  omega

/-! ### All formats -/

/-- **Text and JSON carry every failure, and the interchange format carries none.** -/
theorem failures_told (hf : f ∈ r.failed) (pretty : Bool) :
    ((f.1.toString ++ "\nERROR: " ++ f.2 ++ "\n\n").toList <:+: (Text.results r).toList ∧
      Text.results r ≠ Text.results (r.without f)) ∧
    ((∃ j failures, TemplateLint.Json.parseWithin? none (Json.results r pretty) = some j ∧
        Json.failures? j = some failures ∧
        ∃ e ∈ failures, e.get? "file_path" = some (.str f.1.toString) ∧
          e.get? "error" = some (.str f.2)) ∧
      Json.results r pretty ≠ Json.results (r.without f) pretty) ∧
    Sarif.results r pretty = Sarif.results (r.without f) pretty := by
  refine ⟨⟨Text.failure_isInfix hf, Text.results_without_ne hf⟩,
    ⟨⟨Json.document r, r.failed.map Json.failure, ?_, rfl, ?_⟩, Json.results_without_ne hf pretty⟩,
    rfl⟩
  · exact Json.parse_results (Json.readable_none r) pretty
  · exact ⟨Json.failure f, List.mem_map_of_mem hf, rfl, rfl⟩

def unended : Path × String := (Path.ofString "broken.html", "unexpected end of template")

def broken : Results where
  failed := [unended]

theorem failures_told_broken : unended ∈ broken.failed ∧
    Text.results broken ≠ Text.results (broken.without unended) ∧
    Json.results broken true ≠ Json.results (broken.without unended) true := by
  have hmem : unended ∈ broken.failed := .head _
  have htold := failures_told hmem true
  exact ⟨hmem, htold.1.2, htold.2.1.2⟩

/-- **A run can fail with the output of a run that passes**: all that is wrong is a template that
does not parse. -/
theorem sarif_broken : broken.exitCode = 2 ∧ (broken.without unended).exitCode = 0 ∧
    ∀ pretty, Sarif.results broken pretty = Sarif.results (broken.without unended) pretty :=
  ⟨rfl, by decide, fun _ => rfl⟩

end Output

end TemplateLint
