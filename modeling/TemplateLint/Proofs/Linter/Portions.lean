import TemplateLint.Proofs.Grammar.Template
import TemplateLint.Proofs.Linter.Configuration

/-!
What is linted of a template.

In block mode these are the regions that lint tags mark, each with its block of the tokens, in
template mode it is the whole template. A template that is linted has one report for each of these
portions, and the report holds what the rules have recorded in the walk through it. Main statement:
`reports_of_lint`.
-/

namespace TemplateLint

/-- A tree that is linted, and the index of its source. -/
structure Portion where
  root : Node
  index : SourceIndex
  /-- How many levels of the tree can be gone down. -/
  levels : Nat

namespace Portion

def view (p : Portion) (filename app : Option String) : View :=
  Lint.viewOf p.root p.index filename app

def trace (p : Portion) (t : RuleTable) (filename app : Option String) : Walk.Trace :=
  Lint.traceOf t p.levels (p.view filename app) p.root

def report (p : Portion) (t : RuleTable) (filename app : Option String) : Report :=
  Lint.reportOf (p.view filename app) (diagnosticsOf (p.trace t filename app).effects)

end Portion

namespace Grammar

def Region.portion? (tokens : List Token) (reach : Linter.Reach) (r : Region) : Option Portion :=
  r.ordinal?.map fun k => ⟨r.root, .ofTokens (Block.extract tokens k).tokens, reach (some r)⟩

end Grammar

namespace Configuration

open Linter (Fault firstText)

variable {c : Configuration} {t : RuleTable} {name filename : Option String}

/-- The portions of a template, in the order in which they are linted. -/
def portions (c : Configuration) (source : String) : List Portion :=
  let text := c.preprocessed source
  let o := Grammar.read c.dialect c.extensions text
  match c.mode, o.tree, tokenize c.dialect text with
  | .block, .ok _, .ok tokens => o.regions.filterMap (Grammar.Region.portion? tokens c.reach)
  | .template, .ok tree, .ok tokens => [⟨tree, .ofTokens tokens, c.reach none⟩]
  | _, _, _ => []

lemma report_of_treeReport (hrules : c.rules = .ok t) {p : Portion} {report : Report}
    (h : c.treeReport p.levels p.root p.index name filename = .ok report) :
    (p.trace t (firstText filename name) c.app).fault = none ∧
      report = p.report t (firstText filename name) c.app := by
  simp only [treeReport, hrules, Lint.outcomeOf] at h
  split at h
  · cases h
  · next hfault =>
    cases h
    exact ⟨hfault, rfl⟩

/-- The reports of regions that are all closed without a fault. -/
lemma reports_of_closings {text : String} {tokens : List Token} {rs : List Grammar.Region}
    (hrules : c.rules = .ok t) (hmode : c.mode = .block)
    (htokens : tokenize c.dialect text = .ok tokens)
    (h : (c.closings text name filename rs).2 = none) :
    (∀ p ∈ rs.filterMap (Grammar.Region.portion? tokens c.reach),
      (p.trace t (firstText filename name) c.app).fault = none) ∧
      (c.closings text name filename rs).1 =
        (rs.filterMap (Grammar.Region.portion? tokens c.reach)).map
          (·.report t (firstText filename name) c.app) := by
  induction rs with
  | nil => exact ⟨by simp, rfl⟩
  | cons r rs ih =>
    simp only [closings] at h ⊢
    rcases hc : c.closing text name filename r with ⟨a, _ | f⟩ <;> rw [hc] at h
    · obtain ⟨hfaults, hreports⟩ := ih h
      dsimp only
      rw [hreports]
      cases hp : r.purpose with
      | inspect =>
        have hfst : (c.closing text name filename r).1 = [] := closing_fst_of_inspect hp
        rw [hc] at hfst
        obtain rfl : a = [] := hfst
        have hnone : r.portion? tokens c.reach = none := by
          simp [Grammar.Region.portion?, Grammar.Region.ordinal?, hp]
        rw [List.filterMap_cons_none hnone]
        exact ⟨hfaults, rfl⟩
      | lint k =>
        have hsome : r.portion? tokens c.reach =
            some ⟨r.root, .ofTokens (Block.extract tokens k).tokens, c.reach (some r)⟩ := by
          simp [Grammar.Region.portion?, Grammar.Region.ordinal?, hp]
        rw [List.filterMap_cons_some hsome]
        cases hreport : c.regionReport text r k name filename with
        | error f =>
          rw [closing_of_error hmode hp hreport] at hc
          cases hc
        | ok report =>
          rw [closing_of_ok hmode hp hreport] at hc
          obtain ⟨rfl, -⟩ := Prod.mk.inj hc
          rw [regionReport, htokens] at hreport
          obtain ⟨hfault, rfl⟩ := report_of_treeReport (c := c)
            (p := ⟨r.root, .ofTokens (Block.extract tokens k).tokens, c.reach (some r)⟩)
            hrules hreport
          exact ⟨List.forall_mem_cons.2 ⟨hfault, hfaults⟩, rfl⟩
    · cases h

/-- **A template that is linted has one report for each portion of it.** All portions have been
walked to their ends, and the reports hold what was recorded there. -/
theorem reports_of_lint (hrules : c.rules = .ok t) {source : String} {reports : List Report}
    (h : c.lint source name filename = .ok reports) :
    (∀ p ∈ c.portions source, (p.trace t (firstText filename name) c.app).fault = none) ∧
      reports = (c.portions source).map (·.report t (firstText filename name) c.app) ∧
      (c.mode = .template → reports.length = 1) := by
  unfold lint at h
  split at h
  · cases h
  next rs tree hread =>
  simp only [read] at hread
  split at hread
  · cases hread
  next st hst =>
  split at hread
  · cases hread
  next rs' hclosings =>
  cases htree : (Grammar.readFrom c.extensions st).tree with
  | error f =>
    rw [htree] at hread
    cases hread
  | ok n =>
    rw [htree] at hread
    cases hread
    obtain ⟨tokens, htokens, -⟩ := Grammar.matches_readFrom hst htree
    have hgrammar : Grammar.read c.dialect c.extensions (c.preprocessed source) =
        Grammar.readFrom c.extensions st := by
      rw [Grammar.read, hst]
    unfold portions
    dsimp only
    rw [hgrammar, htree, htokens]
    cases hmode : c.mode with
    | block =>
      rw [hmode, if_neg (by simp)] at h
      cases h
      have hnone : (c.closings (c.preprocessed source) name filename
          (Grammar.readFrom c.extensions st).regions).2 = none := by rw [hclosings]
      obtain ⟨hfaults, hreports⟩ := reports_of_closings hrules hmode htokens hnone
      rw [hclosings] at hreports
      exact ⟨hfaults, hreports, by simp⟩
    | template =>
      rw [hmode, if_pos rfl, htokens] at h
      dsimp only at h
      cases hreport : c.treeReport (c.reach none) tree (.ofTokens tokens) name filename with
      | error f =>
        rw [hreport] at h
        cases h
      | ok report =>
        rw [hreport] at h
        cases h
        obtain ⟨hfault, rfl⟩ := report_of_treeReport (c := c)
          (p := ⟨tree, .ofTokens tokens, c.reach none⟩) hrules hreport
        exact ⟨by simpa using hfault, rfl, fun _ => rfl⟩
    | nothing =>
      rw [hmode, if_neg (by simp)] at h
      cases h
      have hnone : (c.closings (c.preprocessed source) name filename
          (Grammar.readFrom c.extensions st).regions).1 = [] :=
        closings_fst_of_mode (by simp [hmode]) _
      rw [hclosings] at hnone
      exact ⟨by simp, hnone, by simp⟩

end Configuration

end TemplateLint
