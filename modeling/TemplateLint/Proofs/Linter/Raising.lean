import TemplateLint.Proofs.Grammar.Heads
import TemplateLint.Proofs.Linter.Transparency

/-!
Raising the first failing report.

Whether failing reports are raised plays no part in how a region is linted, only in whether the
reading goes on. So a linter that raises has the first reports of one that does not, up to the first
failing one, and this is what it raises, with the line of the region's tag. Main statement:
`raising_of_read`.
-/

namespace TemplateLint

open Grammar (Region linted)

namespace Configuration

open Linter (Fault)

variable {c : Configuration} {text : String} {name filename : Option String}

/-- What comes of reports of regions if a failing one is raised. -/
def upToRaised (name filename : Option String) :
    List (Region × Report) → List Report × Option Fault
  | [] => ([], none)
  | (r, report) :: es =>
    if report.failed then ([report], some (.failed ⟨report, r.line, name, filename⟩))
    else (report :: (upToRaised name filename es).1, (upToRaised name filename es).2)

lemma upToRaised_of_passed {es : List (Region × Report)} (h : ∀ e ∈ es, ¬e.2.failed) :
    upToRaised name filename es = (es.map Prod.snd, none) := by
  induction es with
  | nil => rfl
  | cons e es ih =>
    rw [List.forall_mem_cons] at h
    rw [upToRaised, if_neg h.1, ih h.2, List.map_cons]

lemma upToRaised_of_failed {done later : List (Region × Report)} {r : Region} {report : Report}
    (h : ∀ e ∈ done, ¬e.2.failed) (hr : report.failed) :
    upToRaised name filename (done ++ (r, report) :: later) =
      (done.map Prod.snd ++ [report], some (.failed ⟨report, r.line, name, filename⟩)) := by
  induction done with
  | nil => exact if_pos hr
  | cons e done ih =>
    rw [List.forall_mem_cons] at h
    rw [List.cons_append, upToRaised, if_neg h.1, ih h.2, List.map_cons, List.cons_append]

/-- A configuration that raises closes regions with the reports of one that does not, up to the
first failing one. The induction is on the regions: as long as none fails, both go on alike. -/
theorem closings_raising (hm : c.mode = .block) (hraises : c.raises = false) {rs : List Region}
    {reports : List Report} (h : c.closings text name filename rs = (reports, none)) :
    (linted rs).length = reports.length ∧
      ({ c with raises := true } : Configuration).closings text name filename rs =
        upToRaised name filename ((linted rs).zip reports) := by
  set raising : Configuration := { c with raises := true }
  induction rs generalizing reports with
  | nil =>
    cases h
    exact ⟨rfl, rfl⟩
  | cons r rs ih =>
    cases hr : r.purpose with
    | inspect =>
      have hdescribed : ¬ c.Undescribed r :=
        not_undescribed_of_closings (by rw [h]) r List.mem_cons_self
      have hraising : ¬ raising.Undescribed r := hdescribed
      rw [closings, closing_of_inspect hr hdescribed] at h
      rw [closings, closing_of_inspect hr hraising, Grammar.linted_cons_of_inspect hr]
      exact ih h
    | lint k =>
      have hsame : raising.regionReport text r k name filename =
        c.regionReport text r k name filename := rfl
      cases hreport : c.regionReport text r k name filename with
      | error f =>
        rw [closings, closing_of_error hm hr hreport] at h
        cases h
      | ok report =>
        rw [hreport] at hsame
        rw [closings, closing_of_ok hm hr hreport, hraises, Bool.and_false] at h
        obtain ⟨rfl, hnone⟩ := Prod.mk.inj h
        obtain ⟨hlength, hrest⟩ := ih (Prod.ext rfl hnone)
        rw [closings, closing_of_ok (c := raising) hm hr hsame, Grammar.linted_cons_of_lint hr,
          hrest]
        refine ⟨congrArg Nat.succ hlength, ?_⟩
        cases hfailed : report.failed <;> simp [upToRaised, hfailed, raising]

lemma closings_raising_of_passed (hm : c.mode = .block) (hraises : c.raises = false)
    {rs : List Region} {reports : List Report}
    (h : c.closings text name filename rs = (reports, none)) (hp : ∀ x ∈ reports, ¬x.failed) :
    ({ c with raises := true } : Configuration).closings text name filename rs =
      (reports, none) := by
  obtain ⟨hlength, hclosings⟩ := closings_raising hm hraises h
  rw [hclosings, upToRaised_of_passed fun e he => hp _ (List.of_mem_zip he).2,
    List.map_snd_zip hlength.ge]

lemma closings_raising_of_failed (hm : c.mode = .block) (hraises : c.raises = false)
    {rs : List Region} {done later : List Report} {failing : Report}
    (h : c.closings text name filename rs = (done ++ failing :: later, none))
    (hdone : ∀ x ∈ done, ¬x.failed) (hfailing : failing.failed) :
    ∃ r, (linted rs)[done.length]? = some r ∧
      ({ c with raises := true } : Configuration).closings text name filename rs =
        (done ++ [failing], some (.failed ⟨failing, r.line, name, filename⟩)) := by
  obtain ⟨hlength, hclosings⟩ := closings_raising hm hraises h
  rw [List.length_append, List.length_cons] at hlength
  have hlt : done.length < (linted rs).length := by omega
  obtain ⟨before, r, after, hsplit, hbefore⟩ :
      ∃ before r after, linted rs = before ++ r :: after ∧ before.length = done.length :=
    ⟨_, _, _, by rw [List.getElem_cons_drop hlt, List.take_append_drop],
      List.length_take_of_le hlt.le⟩
  refine ⟨r, by simp [hsplit, ← hbefore], ?_⟩
  rw [hclosings, hsplit, List.zip_append hbefore, List.zip_cons_cons,
    upToRaised_of_failed (fun e he => hdone _ (List.of_mem_zip he).2) hfailing,
    List.map_snd_zip hbefore.ge]

end Configuration

namespace Linter

/-- The entries of a report as they are told of in a message. -/
def told (ds : List Diagnostic) : String :=
  "; ".intercalate (ds.map fun d => d.rule ++ ": " ++ d.message)

/-- What is raised about a region with a failing report. -/
structure Raised (tokens : List Token) (name filename : Option String) (r : Region)
    (failing : Report) (f : Failed) : Prop where
  report : f.report = failing
  name : f.name = name
  filename : f.filename = filename
  /-- The line is the one of the word `lint` in the tag that the region begins behind, so it is the
  line of the tag if all of the tag is on one. -/
  line : ∃ k opening inTag, r.purpose = .lint k ∧
    Block.findOpening "lint" k tokens = some (opening, inTag) ∧
    Block.afterTag inTag = tokens.drop r.first ∧
    Block.tagWord? inTag = some ("lint", (f.line : Int)) ∧
    ((∀ t ∈ inTag.takeWhile (!Block.closesTag ·), t.line = opening.line) →
      (f.line : Int) = opening.line)
  /-- The fatal entries are told of if there are any. -/
  fatal : failing.fatals ≠ [] →
    f.message = "Lint fatal in " ++ failing.filename ++ ": " ++ told failing.fatals
  /-- Otherwise the warnings are told of, and there are some. -/
  warning : failing.fatals = [] → failing.warnings ≠ [] ∧
    f.message = "Lint warning in " ++ failing.filename ++ ": " ++ told failing.warnings

lemma message_of_fatals {f : Failed} (h : f.report.fatals ≠ []) :
    f.message = "Lint fatal in " ++ f.report.filename ++ ": " ++ told f.report.fatals := by
  have hstatus : f.report.status = .fatal := by simp [Report.status, h]
  have hfailures : f.report.failures = f.report.fatals := by simp [Report.failures, h]
  rw [Failed.message, hstatus, hfailures]
  rfl

lemma message_of_warnings {f : Failed} (h : f.report.fatals = []) (hf : f.report.failed) :
    f.report.warnings ≠ [] ∧
      f.message = "Lint warning in " ++ f.report.filename ++ ": " ++ told f.report.warnings := by
  have hw : f.report.warnings ≠ [] := by
    simpa [Report.failed, Report.status, Status.failed, h] using hf
  have hstatus : f.report.status = .warning := by simp [Report.status, h, hw]
  have hfailures : f.report.failures = f.report.warnings := by simp [Report.failures, h]
  refine ⟨hw, ?_⟩
  rw [Failed.message, hstatus, hfailures]
  rfl

/-- What is raised about a region of a template names the region's tag and the failing entries. -/
lemma raised_of_failed {es : List Grammar.Extension} {d : Dialect} {text : String}
    {st : Grammar.Stream} {tree : Node} {tokens : List Token} {name filename : Option String}
    {r : Region} {report : Report} (hst : Grammar.Stream.start d text = .ok st)
    (htree : (Grammar.readFrom es st).tree = .ok tree) (htokens : tokenize d text = .ok tokens)
    (hr : r ∈ linted (Grammar.readFrom es st).regions) (hfailed : report.failed) :
    Raised tokens name filename r report ⟨report, r.line, name, filename⟩ where
  report := rfl
  name := rfl
  filename := rfl
  line := by
    obtain ⟨hmem, k, hk⟩ := Grammar.mem_linted.1 hr
    obtain ⟨tokens', htokens', hblocks, -⟩ := Grammar.matches_readFrom hst htree
    obtain rfl : tokens' = tokens := Except.ok.inj (htokens'.symm.trans htokens)
    obtain ⟨opening, inTag, hfind, hword⟩ :=
      Grammar.tagWord_of_readFrom hst htree htokens r hmem k hk
    obtain ⟨opening', inTag', hfind', hafter⟩ := hblocks.first r hmem k hk
    rw [hfind] at hfind'
    obtain ⟨rfl, rfl⟩ := Prod.mk.inj (Option.some.inj hfind')
    obtain ⟨t, ht, hline⟩ := Block.exists_of_tagWord? hword
    exact ⟨k, opening, inTag, hk, hfind, hafter, hword, fun h => hline.symm.trans (h t ht)⟩
  fatal := message_of_fatals (f := ⟨report, r.line, name, filename⟩)
  warning h := message_of_warnings (f := ⟨report, r.line, name, filename⟩) h hfailed

/-- How a linter that raises comes out of a template in which the same linter, when it does not
raise, reads a tree and adds reports, one for each linted region. -/
structure Raising (l : Linter) (tokens : List Token) (name filename : Option String)
    (rs : List Region) (tree : Node) (reports : List Report)
    (outcome : Linter × Except Fault Node) : Prop where
  /-- It reads the same tree with the same reports if and only if none of them has failed. -/
  passes : outcome.2 = .ok tree ∧ outcome.1.reports = l.reports ++ reports ↔
    ∀ report ∈ reports, ¬report.failed
  /-- Otherwise it raises the first failing report, and has the reports up to this one. -/
  fails : (∃ report ∈ reports, report.failed) → ∃ done failing later r f,
    reports = done ++ failing :: later ∧ (∀ report ∈ done, ¬report.failed) ∧ failing.failed ∧
    rs[done.length]? = some r ∧ outcome.2 = .error (.failed f) ∧
    Raised tokens name filename r failing f ∧
    outcome.1.reports = l.reports ++ (done ++ [failing])

/-- A linter reads a template that the grammar allows with the outcome of closing its regions. -/
lemma read_of_closings {l : Linter} {source : String} {name filename : Option String}
    {st : Grammar.Stream} {tree : Node} {reports : List Report} {fault : Option Fault}
    (hst : Grammar.Stream.start l.dialect (l.preprocessed source) = .ok st)
    (htree : (Grammar.readFrom l.extensions st).tree = .ok tree)
    (hclosings : l.configuration.closings (l.preprocessed source) name filename
      (Grammar.readFrom l.extensions st).regions = (reports, fault)) :
    (l.read source name filename).1.reports = l.reports ++ reports ∧
      (l.read source name filename).2 = fault.elim (.ok tree) .error := by
  obtain ⟨-, hreports, hout⟩ := read_eq l source name filename
  have hread := Configuration.read_of_closings (c := l.configuration) hst htree hclosings
  rw [hread] at hreports hout
  exact ⟨hreports, hout⟩

section

variable {l l' : Linter} {source : String} {name filename : Option String} {tree : Node}

/-- The reading is stopped at the first failing report, if there is one. -/
lemma raising_of_closings {st : Grammar.Stream} {tokens : List Token} {reports : List Report}
    (hm : l.mode = .block) (hraises : l.raises = false)
    (hst : Grammar.Stream.start l.dialect (l.preprocessed source) = .ok st)
    (htree : (Grammar.readFrom l.extensions st).tree = .ok tree)
    (htokens : tokenize l.dialect (l.preprocessed source) = .ok tokens)
    (hclosings : l.configuration.closings (l.preprocessed source) name filename
      (Grammar.readFrom l.extensions st).regions = (reports, none)) :
    Raising l tokens name filename (linted (Grammar.readFrom l.extensions st).regions) tree
      reports (({ l with raises := true } : Linter).read source name filename) := by
  cases hfind : reports.find? (·.failed) with
  | none =>
    have hpassed := List.find?_eq_none.1 hfind
    have hraising := Configuration.closings_raising_of_passed hm hraises hclosings hpassed
    obtain ⟨hreports, hout⟩ := read_of_closings (l := { l with raises := true }) hst htree hraising
    exact ⟨iff_of_true ⟨hout, hreports⟩ hpassed,
      fun ⟨report, hreport, hfailed⟩ => absurd hfailed (hpassed report hreport)⟩
  | some failing =>
    obtain ⟨hfailing, done, later, rfl, hdone⟩ := List.find?_eq_some_iff_append.1 hfind
    have hpassed : ∀ report ∈ done, ¬report.failed := by simpa using hdone
    obtain ⟨r, hr, hraising⟩ :=
      Configuration.closings_raising_of_failed hm hraises hclosings hpassed hfailing
    obtain ⟨hreports, hout⟩ := read_of_closings (l := { l with raises := true }) hst htree hraising
    have hraised : Raised tokens name filename r failing ⟨failing, r.line, name, filename⟩ :=
      raised_of_failed hst htree htokens (List.mem_of_getElem? hr) hfailing
    refine ⟨iff_of_false (fun h => ?_) fun h => h failing (by simp) hfailing,
      fun _ => ⟨done, failing, later, r, _, rfl, hpassed, hfailing, hr, hout, hraised, hreports⟩⟩
    rw [hout] at h
    cases h.1

/-- **A linter that raises reports a prefix of what it reports when it does not raise.** -/
theorem raising_of_read (hm : l.mode = .block) (hraises : l.raises = false)
    (h : l.read source name filename = (l', .ok tree)) :
    ∃ st tokens reports, Grammar.Stream.start l.dialect (l.preprocessed source) = .ok st ∧
      tokenize l.dialect (l.preprocessed source) = .ok tokens ∧
      Grammar.Matches (Grammar.readFrom l.extensions st).regions tokens ∧
      l'.reports = l.reports ++ reports ∧ reports.length = Block.openings "lint" tokens ∧
      List.Forall₂ (ReportOf l tokens name filename)
        (linted (Grammar.readFrom l.extensions st).regions) reports ∧
      Raising l tokens name filename (linted (Grammar.readFrom l.extensions st).regions) tree
        reports (({ l with raises := true } : Linter).read source name filename) := by
  obtain ⟨-, hreports, hout⟩ := read_eq l source name filename
  rw [h] at hreports hout
  obtain ⟨st, hst, htree, hclosings⟩ := Configuration.read_eq_ok (Prod.ext rfl hout.symm)
  obtain ⟨tokens, htokens, hblocks, -⟩ := Grammar.matches_readFrom hst htree
  have hforall := forall₂_closings hm htokens
    (fun r hr k hk => by rw [hblocks.extract r hr k hk]) (congrArg Prod.snd hclosings)
  rw [hclosings] at hforall
  refine ⟨st, tokens, _, hst, htokens, hblocks, hreports, ?_, hforall,
    raising_of_closings hm hraises hst htree htokens hclosings⟩
  rw [← hforall.length_eq, length_linted, hblocks.ordinals.length_eq, List.length_range]

end

/-- The rule warns of the text in the outer block, whatever else is seen. -/
lemma failed_nestedRegions (w : View) : ∀ r ∈ nestedRegions,
    (Lint.outcomeOf outputTable usualLevels w r.root).toOption.map Report.failed =
      some (!r.body.isEmpty) := by
  intro r hr
  rcases List.mem_pair.1 hr with rfl | rfl
  · rfl
  · rfl

lemma failed_of_reportOf {l : Linter} {tokens : List Token} {name filename : Option String}
    {r : Region} {report : Report} (hrules : l.resolve.2 = .ok outputTable)
    (hreach : l.reach (some r) = usualLevels) (hr : r ∈ nestedRegions)
    (h : ReportOf l tokens name filename r report) : report.failed = !r.body.isEmpty := by
  obtain ⟨t, ht, hreport⟩ := h
  obtain rfl : t = outputTable := Except.ok.inj (ht.symm.trans hrules)
  have hout := hreport l.run
  rw [Lint.tree_outcome, hreach] at hout
  have hfailed := failed_nestedRegions (Lint.viewOf r.root (.ofTokens
    ((tokens.drop r.first).take (r.stop - r.first))) (firstText filename name) l.app) r hr
  rw [hout] at hfailed
  exact Option.some.inj hfailed

/-- In a nest of two blocks the outer one fails, and this is raised. -/
theorem raising_of_read_nested :
    let l : Linter := { raises := false, rules := .table outputTable }
    ∃ l' tree, l.read nestedSource none none = (l', .ok tree) ∧
      ∃ st tokens reports, Grammar.Stream.start {} nestedSource = .ok st ∧
        tokenize {} nestedSource = .ok tokens ∧
        Grammar.Matches (Grammar.readFrom [.lint, .inspect] st).regions tokens ∧
        l'.reports = reports ∧ reports.length = Block.openings "lint" tokens ∧
        List.Forall₂ (ReportOf l tokens none none)
          (linted (Grammar.readFrom [.lint, .inspect] st).regions) reports ∧
        Raising l tokens none none (linted (Grammar.readFrom [.lint, .inspect] st).regions) tree
          reports (({ l with raises := true } : Linter).read nestedSource none none) ∧
        ∃ report ∈ reports, report.failed := by
  intro l
  obtain ⟨tree, htree⟩ := read_nestedSource (l := l) rfl rfl rfl rfl rfl isOk_outputTable none none
  have hread : l.read nestedSource none none = ((l.read nestedSource none none).1, .ok tree) :=
    Prod.ext rfl htree
  obtain ⟨st, tokens, reports, hst, htokens, hblocks, hreports, hlength, hforall, hraising⟩ :=
    raising_of_read rfl rfl hread
  refine ⟨_, tree, hread, st, tokens, reports, hst, htokens, hblocks, hreports, hlength, hforall,
    hraising, ?_⟩
  have hst' : Grammar.Stream.start {} nestedSource = .ok st := hst
  rw [start_nestedSource] at hst'
  have hregions : (Grammar.readFrom [.lint, .inspect] st).regions = nestedRegions := by
    rw [← Except.ok.inj hst', regions_nestedStream]
  -- the second of the two reports is the one on the outer block
  have hboth : List.Forall₂ (ReportOf l tokens none none)
    (linted (Grammar.readFrom [.lint, .inspect] st).regions) reports := hforall
  rw [hregions] at hboth
  obtain ⟨inner, rest, -, hrest, rfl⟩ := List.forall₂_cons_left_iff.1 hboth
  obtain ⟨outer, rest', houter, -, rfl⟩ := List.forall₂_cons_left_iff.1 hrest
  exact ⟨outer, by simp, failed_of_reportOf rfl rfl (.tail _ (.head _)) houter⟩

end Linter

end TemplateLint
