import Mathlib
import TemplateLint.Batch
import TemplateLint.Proofs.FileTree.Find
import TemplateLint.Proofs.Linter.Configuration

/-!
What becomes of the templates of a batch.

The verdict on a template depends on the configuration of the linter alone, not on the templates
before it. A batch writes down one verdict after the other, and stops at the first one that nobody
expects. Main statements: `lintAll_of_expected` and `lintAll_of_unexpected`.
-/

namespace TemplateLint

namespace Batch

/-- The reports of a template, or why it has none. -/
abbrev Verdict := Except (Linter.Fault ⊕ String) (List Report)

namespace Verdict

def isExpected : Verdict → Bool
  | .error (.inl f) => f.isExpected
  | _ => true

lemma isExpected_of_forall {v : Verdict} (h : ∀ f, v = .error (.inl f) → f.isExpected) :
    v.isExpected := by
  rcases v with (f | reason) | reports
  · exact h f rfl
  · rfl
  · rfl

/-- The reason that is written down for a template without reports. -/
def reason? : Verdict → Option String
  | .ok _ => none
  | .error (.inl f) => some f.reason
  | .error (.inr reason) => some reason

def reports : Verdict → List Report
  | .ok reports => reports
  | .error _ => []

def note (v : Verdict) (file : Path) (r : Results) : Results :=
  match v.reason? with
  | none => r.pass file v.reports
  | some reason => r.fail file reason

lemma reason?_eq_none_iff {v : Verdict} : v.reason? = none ↔ v.isOk := by
  rcases v with (f | reason) | reports <;> simp [reason?, Except.isOk, Except.toBool]

end Verdict

/-- The verdict on a template by a linter of a configuration. -/
def verdict (files : FileTree) (base : Path) (c : Configuration) (file : Path) : Verdict :=
  match Discovery.readTemplate files file with
  | .error reason => .error (.inr reason)
  | .ok source =>
    (c.lint source (some ((file.relativeTo? base).getD file).toString)
      (some file.toString)).mapError .inl

variable {files : FileTree} {base : Path}

/-- **The verdict on a template does not depend on the templates before it.** -/
theorem lintFile_eq (files : FileTree) (base file : Path) (l : Linter) :
    (lintFile files base file l).1.configuration = l.configuration ∧
      (lintFile files base file l).2 = verdict files base l.configuration file := by
  unfold lintFile verdict
  cases Discovery.readTemplate files file with
  | error reason => exact ⟨rfl, rfl⟩
  | ok source =>
    obtain ⟨hkeeps, hout⟩ := l.lint_eq source
      (some ((file.relativeTo? base).getD file).toString) (some file.toString)
    exact ⟨hkeeps.configuration, congrArg (Except.mapError Sum.inl) hout⟩

lemma configuration_tell (l : Linter) (records : Log) :
    (l.tell records).configuration = l.configuration := rfl

/-- One template: its verdict is written down, or it ends the batch. -/
lemma lintAll_cons (files : FileTree) (base file : Path) (found : List Path) (l : Linter)
    (r : Results) :
    if (verdict files base l.configuration file).isExpected then
      ∃ l', l'.configuration = l.configuration ∧ (lintAll files base (file :: found) l r).2 =
        (lintAll files base found l' ((verdict files base l.configuration file).note file r)).2
    else ∃ f, verdict files base l.configuration file = .error (.inl f) ∧
      (lintAll files base (file :: found) l r).2 = .error (.template f) := by
  obtain ⟨hconfiguration, hverdict⟩ := lintFile_eq files base file l
  rw [← hverdict, lintAll]
  rcases hfile : lintFile files base file l with ⟨l', (f | reason) | reports⟩ <;>
    rw [hfile] at hconfiguration
  · cases hexpected : f.isExpected with
    | true =>
      simp only [Verdict.isExpected, hexpected, if_true]
      exact ⟨l'.tell (failure file f.reason),
        (configuration_tell l' _).trans hconfiguration, rfl⟩
    | false =>
      simp only [Verdict.isExpected, hexpected, Bool.false_eq_true, if_false]
      exact ⟨f, rfl, rfl⟩
  · exact ⟨l'.tell (failure file reason), (configuration_tell l' _).trans hconfiguration, rfl⟩
  · exact ⟨l', hconfiguration, rfl⟩

/-- Writes down the verdicts on templates, one after the other. -/
def noteAll (v : Path → Verdict) (found : List Path) (r : Results) : Results :=
  found.foldl (fun r file => (v file).note file r) r

/-- **A batch of expected verdicts goes to its end** and writes all of them down. -/
theorem lintAll_of_expected {found : List Path} {l : Linter}
    (h : ∀ file ∈ found, (verdict files base l.configuration file).isExpected) (r : Results) :
    (lintAll files base found l r).2 =
      .ok (noteAll (verdict files base l.configuration) found r) := by
  induction found generalizing l r with
  | nil => rfl
  | cons file found ih =>
    have hstep := lintAll_cons files base file found l r
    rw [if_pos (h file List.mem_cons_self)] at hstep
    obtain ⟨l', hconfiguration, hstep⟩ := hstep
    have hrest : ∀ file' ∈ found, (verdict files base l'.configuration file').isExpected := by
      rw [hconfiguration]
      exact fun file' hfile' => h file' (List.mem_cons_of_mem _ hfile')
    rw [hstep, ih hrest, hconfiguration]
    rfl

/-- **A verdict that nobody expects ends a batch.** -/
theorem lintAll_of_unexpected {found : List Path} {l : Linter} {file : Path} (hfile : file ∈ found)
    (h : (verdict files base l.configuration file).isExpected = false) (r : Results) :
    ∃ f, (lintAll files base found l r).2 = .error (.template f) := by
  induction found generalizing l r with
  | nil => cases hfile
  | cons file' found ih =>
    have hstep := lintAll_cons files base file' found l r
    split at hstep
    · next hexpected =>
      obtain ⟨l', hconfiguration, hstep⟩ := hstep
      rw [hstep]
      rcases List.mem_cons.1 hfile with rfl | hfile
      · rw [h] at hexpected
        cases hexpected
      · exact ih hfile (by rw [hconfiguration, h]) _
    · obtain ⟨f, -, hstep⟩ := hstep
      exact ⟨f, hstep⟩

/-- **A batch that goes to its end has written all verdicts down.** -/
lemma eq_noteAll_of_lintAll {found : List Path} {l : Linter} {r r' : Results}
    (h : (lintAll files base found l r).2 = .ok r') :
    r' = noteAll (verdict files base l.configuration) found r := by
  have hexpected : ∀ file ∈ found, (verdict files base l.configuration file).isExpected := by
    intro file hfile
    by_contra hnot
    obtain ⟨f, hf⟩ := lintAll_of_unexpected hfile (Bool.eq_false_iff.2 hnot) r
    rw [hf] at h
    cases h
  rw [lintAll_of_expected hexpected r] at h
  exact (Except.ok.inj h).symm

/-! ### What is written down -/

section

variable {v : Path → Verdict} {found : List Path} {r : Results}

lemma noteAll_cons (v : Path → Verdict) (file : Path) (found : List Path) (r : Results) :
    noteAll v (file :: found) r = noteAll v found ((v file).note file r) := rfl

lemma linted_fail (r : Results) (file : Path) (reason : String) :
    (r.fail file reason).linted = r.linted := by
  unfold Results.fail
  split <;> rfl

lemma reports_fail (r : Results) (file : Path) (reason : String) :
    (r.fail file reason).reports = r.reports := by
  unfold Results.fail
  split <;> rfl

/-- The templates that are linted are those with reports, in their order. -/
lemma linted_noteAll (v : Path → Verdict) (found : List Path) (r : Results) :
    (noteAll v found r).linted = r.linted ++ found.filter fun file => (v file).isOk := by
  induction found generalizing r with
  | nil => simp [noteAll]
  | cons file found ih =>
    rw [noteAll_cons, ih, Verdict.note]
    cases hreason : (v file).reason? with
    | none =>
      have hok := Verdict.reason?_eq_none_iff.1 hreason
      simp [Results.pass, hok]
    | some reason =>
      have hok : ¬(v file).isOk = true := fun hok => by
        rw [Verdict.reason?_eq_none_iff.2 hok] at hreason
        cases hreason
      simp [linted_fail, hok]

/-- The reports are those of the templates that are linted, in their order. -/
lemma reports_noteAll (v : Path → Verdict) (found : List Path) (r : Results) :
    (noteAll v found r).reports =
      r.reports ++ (found.filter fun file => (v file).isOk).flatMap fun file =>
        (v file).reports := by
  induction found generalizing r with
  | nil => simp [noteAll]
  | cons file found ih =>
    rw [noteAll_cons, ih, Verdict.note]
    cases hreason : (v file).reason? with
    | none =>
      have hok := Verdict.reason?_eq_none_iff.1 hreason
      simp [Results.pass, hok]
    | some reason =>
      have hok : ¬(v file).isOk = true := fun hok => by
        rw [Verdict.reason?_eq_none_iff.2 hok] at hreason
        cases hreason
      simp [reports_fail, hok]

/-- A path that is written down as failed stays so. -/
lemma mem_failed_fail {file p : Path} {reason : String} :
    p ∈ (r.fail file reason).failed.map (·.1) ↔ p = file ∨ p ∈ r.failed.map (·.1) := by
  unfold Results.fail
  split
  · next hany =>
    have hfst : (r.failed.map fun e => if e.1 == file then (file, reason) else e).map (·.1) =
        r.failed.map (·.1) := by
      rw [List.map_map]
      refine List.map_congr_left fun e _ => ?_
      by_cases he : e.1 = file <;> simp [he]
    have hmem : file ∈ r.failed.map (·.1) := by
      obtain ⟨e, he, hfile⟩ := List.any_eq_true.1 hany
      exact List.mem_map.2 ⟨e, he, eq_of_beq hfile⟩
    rw [hfst]
    exact ⟨.inr, fun h => h.elim (fun hp => hp ▸ hmem) id⟩
  · simp [or_comm]

/-- The templates that fail are those without reports. -/
lemma mem_failed_noteAll {p : Path} : p ∈ (noteAll v found r).failed.map (·.1) ↔
    (p ∈ found ∧ ¬(v p).isOk) ∨ p ∈ r.failed.map (·.1) := by
  induction found generalizing r with
  | nil => simp [noteAll]
  | cons file found ih =>
    rw [noteAll_cons, ih, Verdict.note]
    cases hreason : (v file).reason? with
    | none =>
      have hok := Verdict.reason?_eq_none_iff.1 hreason
      have hpass : (r.pass file (v file).reports).failed = r.failed := rfl
      rw [hpass, List.mem_cons]
      constructor
      · rintro (⟨hp, hfail⟩ | hp)
        · exact .inl ⟨.inr hp, hfail⟩
        · exact .inr hp
      · rintro (⟨rfl | hp, hfail⟩ | hp)
        · exact absurd hok hfail
        · exact .inl ⟨hp, hfail⟩
        · exact .inr hp
    | some reason =>
      have hok : ¬(v file).isOk = true := fun hok => by
        rw [Verdict.reason?_eq_none_iff.2 hok] at hreason
        cases hreason
      rw [mem_failed_fail, List.mem_cons]
      constructor
      · rintro (⟨hp, hfail⟩ | rfl | hp)
        · exact .inl ⟨.inr hp, hfail⟩
        · exact .inl ⟨.inl rfl, hok⟩
        · exact .inr hp
      · rintro (⟨rfl | hp, hfail⟩ | hp)
        · exact .inr (.inl rfl)
        · exact .inl ⟨hp, hfail⟩
        · exact .inr (.inr hp)

/-- Of distinct templates, those that fail are written down with their reasons, in their order. -/
lemma failed_noteAll (hfound : found.Nodup)
    (hnew : ∀ file ∈ found, file ∉ r.failed.map (·.1)) :
    (noteAll v found r).failed =
      r.failed ++ found.filterMap fun file => ((v file).reason?).map fun reason =>
        (file, reason) := by
  induction found generalizing r with
  | nil => simp [noteAll]
  | cons file found ih =>
    obtain ⟨hnot, hfound⟩ := List.nodup_cons.1 hfound
    have hrest : ∀ file' ∈ found, file' ∉ ((v file).note file r).failed.map (·.1) := by
      intro file' hfile' hmem
      have hold := hnew file' (List.mem_cons_of_mem _ hfile')
      unfold Verdict.note at hmem
      split at hmem
      · exact hold hmem
      · rcases mem_failed_fail.1 hmem with rfl | hmem
        · exact hnot hfile'
        · exact hold hmem
    rw [noteAll_cons, ih hfound hrest, Verdict.note]
    cases hreason : (v file).reason? with
    | none => simp [Results.pass, hreason]
    | some reason =>
      have hany : r.failed.any (·.1 == file) = false := by
        rw [List.any_eq_false]
        intro e he hfile
        exact hnew file List.mem_cons_self (List.mem_map.2 ⟨e, he, eq_of_beq hfile⟩)
      simp [Results.fail, hany, hreason]

end

/-! ### A directory with two templates -/

/-- A directory `t` with two files of the given bytes, and more entries. -/
def twoFiles (bs bs' : List UInt8) (more : List (Path × Content)) : FileTree :=
  ⟨[(⟨.here, ["t"]⟩, .directory), (⟨.here, ["t", "a.html"]⟩, .file bs),
    (⟨.here, ["t", "b.html"]⟩, .file bs')] ++ more⟩

section

variable (bs bs' : List UInt8) (more : List (Path × Content))

lemma leadsTo_twoFiles : (twoFiles bs bs' more).LeadsTo ⟨.here, ["t"]⟩ ⟨.here, ["t"]⟩ :=
  FileTree.find_child_of_at? (FileTree.leadsTo_here _) (by decide) rfl

lemma find_twoFiles :
    (twoFiles bs bs' more).find ⟨.here, ["t", "a.html"]⟩ =
        .ok (⟨.here, ["t", "a.html"]⟩, .file bs) ∧
      (twoFiles bs bs' more).find ⟨.here, ["t", "b.html"]⟩ =
        .ok (⟨.here, ["t", "b.html"]⟩, .file bs') :=
  ⟨FileTree.find_child_of_at? (leadsTo_twoFiles bs bs' more) (by decide) rfl,
    FileTree.find_child_of_at? (leadsTo_twoFiles bs bs' more) (by decide) rfl⟩

lemma bytes_twoFiles :
    (twoFiles bs bs' more).bytes ⟨.here, ["t", "a.html"]⟩ = .ok bs ∧
      (twoFiles bs bs' more).bytes ⟨.here, ["t", "b.html"]⟩ = .ok bs' := by
  obtain ⟨hfirst, hsecond⟩ := find_twoFiles bs bs' more
  exact ⟨by rw [FileTree.bytes, hfirst], by rw [FileTree.bytes, hsecond]⟩

end

def twoTemplates (x y : String) (more : List (Path × Content) := []) : FileTree :=
  twoFiles (Text.Utf8.encode x.toList) (Text.Utf8.encode y.toList) more

/-- A text that can be decoded, without line breaks that would be changed, is read as it is. -/
def IsPlain (x : String) : Prop :=
  Text.Utf8.scan 0 0 (Text.Utf8.encode x.toList) = (x.toList, none) ∧
    Text.unifyBreaks x.toList = x.toList

instance (x : String) : Decidable (IsPlain x) := inferInstanceAs (Decidable (_ ∧ _))

lemma readTemplate_of_isPlain {file : Path} {x : String}
    (hbytes : files.bytes file = .ok (Text.Utf8.encode x.toList)) (hx : IsPlain x) :
    Discovery.readTemplate files file = .ok x := by
  simp only [Discovery.readTemplate, hbytes, Text.Utf8.decode, hx.1, hx.2, String.ofList_toList]

lemma readTemplate_twoTemplates {x y : String} (hx : IsPlain x) (hy : IsPlain y)
    (more : List (Path × Content)) :
    Discovery.readTemplate (twoTemplates x y more) ⟨.here, ["t", "a.html"]⟩ = .ok x ∧
      Discovery.readTemplate (twoTemplates x y more) ⟨.here, ["t", "b.html"]⟩ = .ok y :=
  ⟨readTemplate_of_isPlain (bytes_twoFiles _ _ more).1 hx,
    readTemplate_of_isPlain (bytes_twoFiles _ _ more).2 hy⟩

end Batch

end TemplateLint
