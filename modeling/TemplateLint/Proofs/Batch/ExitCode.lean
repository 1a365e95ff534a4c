import TemplateLint.Proofs.Batch.Bookkeeping
import TemplateLint.Proofs.Walk.Calls

/-!
The exit code of a run.

The exit code is the grave side of everything that is written down: it is at least `n` just if a
template has failed or some report has a status of at least that rank (`le_exitCode_iff`). The
entries of the reports are those that rules have recorded, so the exit code tells of a run what its
rules have recorded. Main statement: `exitCode_run`.
-/

namespace TemplateLint

lemma Status.rank_le (s : Status) : s.rank ≤ 2 := by cases s <;> decide

lemma Status.rank_worse (a b : Status) : (a.worse b).rank = max a.rank b.rank := by
  unfold Status.worse
  split_ifs with h
  · exact (max_eq_right h.le).symm
  · exact (max_eq_left (not_lt.1 h)).symm

namespace Report

variable {x y : Report}

/-- A report holds an entry of a severity. -/
def Holds (x : Report) (v : Severity) : Prop := ∃ d ∈ x.diagnostics, d.severity = v

lemma two_le_rank_iff : 2 ≤ x.status.rank ↔ x.fatals ≠ [] := by
  unfold status
  cases x.fatals with
  | cons d ds => simp [Status.rank]
  | nil => cases x.warnings <;> simp [Status.rank]

lemma one_le_rank_iff : 1 ≤ x.status.rank ↔ x.fatals ≠ [] ∨ x.warnings ≠ [] := by
  unfold status
  cases x.fatals with
  | cons d ds => simp [Status.rank]
  | nil => cases x.warnings <;> simp [Status.rank]

/-- Log entries play no part in the status of a report. -/
lemma status_congr (h : (x.warnings, x.fatals) = (y.warnings, y.fatals)) :
    x.status = y.status := by
  obtain ⟨hwarnings, hfatals⟩ := Prod.mk.inj h
  unfold status
  rw [hwarnings, hfatals]

lemma exists_status_eq {xs ys : List Report}
    (h : (xs.map fun x => (x.warnings, x.fatals)) = ys.map fun x => (x.warnings, x.fatals))
    (hx : x ∈ xs) : ∃ y ∈ ys, x.status = y.status := by
  have hmem : (x.warnings, x.fatals) ∈ ys.map fun x => (x.warnings, x.fatals) :=
    h ▸ List.mem_map.2 ⟨x, hx, rfl⟩
  obtain ⟨y, hy, hyx⟩ := List.mem_map.1 hmem
  exact ⟨y, hy, (status_congr hyx).symm⟩

/-- Every entry of a report is in the list of its severity. -/
structure Sorted (x : Report) : Prop where
  logs : ∀ d ∈ x.logs, d.severity = .log
  warnings : ∀ d ∈ x.warnings, d.severity = .warn
  fatals : ∀ d ∈ x.fatals, d.severity = .fatal

namespace Sorted

variable (h : x.Sorted)

include h

lemma severity_cases {d : Diagnostic} (hd : d ∈ x.diagnostics) :
    (d ∈ x.logs ∧ d.severity = .log) ∨ (d ∈ x.warnings ∧ d.severity = .warn) ∨
      (d ∈ x.fatals ∧ d.severity = .fatal) := by
  rcases List.mem_append.1 hd with hd | hd
  · rcases List.mem_append.1 hd with hd | hd
    · exact .inl ⟨hd, h.logs d hd⟩
    · exact .inr (.inl ⟨hd, h.warnings d hd⟩)
  · exact .inr (.inr ⟨hd, h.fatals d hd⟩)

lemma holds_fatal_iff : x.Holds .fatal ↔ x.fatals ≠ [] := by
  constructor
  · rintro ⟨d, hd, hfatal⟩
    rcases h.severity_cases hd with ⟨-, hlog⟩ | ⟨-, hwarn⟩ | ⟨hd, -⟩
    · rw [hlog] at hfatal
      cases hfatal
    · rw [hwarn] at hfatal
      cases hfatal
    · exact List.ne_nil_of_mem hd
  · intro hne
    obtain ⟨d, hd⟩ := List.exists_mem_of_ne_nil _ hne
    exact ⟨d, List.mem_append.2 (.inr hd), h.fatals d hd⟩

lemma holds_warn_iff : x.Holds .warn ↔ x.warnings ≠ [] := by
  constructor
  · rintro ⟨d, hd, hwarn⟩
    rcases h.severity_cases hd with ⟨-, hlog⟩ | ⟨hd, -⟩ | ⟨-, hfatal⟩
    · rw [hlog] at hwarn
      cases hwarn
    · exact List.ne_nil_of_mem hd
    · rw [hfatal] at hwarn
      cases hwarn
  · intro hne
    obtain ⟨d, hd⟩ := List.exists_mem_of_ne_nil _ hne
    exact ⟨d, List.mem_append.2 (.inl (List.mem_append.2 (.inr hd))), h.warnings d hd⟩

end Sorted

end Report

namespace Results

variable {r r' : Results} {n : Nat}

/-- Some report of the results holds an entry of a severity. -/
def Holds (r : Results) (v : Severity) : Prop := ∃ x ∈ r.reports, x.Holds v

lemma le_rank_foldl (xs : List Report) (s : Status) :
    n ≤ (xs.foldl (fun worst x => worst.worse x.status) s).rank ↔
      n ≤ s.rank ∨ ∃ x ∈ xs, n ≤ x.status.rank := by
  induction xs generalizing s with
  | nil => simp
  | cons x xs ih =>
    rw [List.foldl_cons, ih, Status.rank_worse, le_max_iff, List.exists_mem_cons_iff, or_assoc]

/-- **What the exit code is at least**: it comes from a template that failed or from a report. -/
theorem le_exitCode_iff : n ≤ r.exitCode ↔
    n = 0 ∨ (n ≤ 2 ∧ r.failed ≠ []) ∨ ∃ x ∈ r.reports, n ≤ x.status.rank := by
  unfold exitCode
  cases hfailed : r.failed with
  | nil =>
    rw [List.isEmpty_nil, if_pos rfl, status, le_rank_foldl]
    simp [Status.rank]
  | cons e es =>
    rw [List.isEmpty_cons, if_neg (by decide)]
    constructor
    · exact fun hn => .inr (.inl ⟨hn, List.cons_ne_nil e es⟩)
    · rintro (rfl | ⟨hn, -⟩ | ⟨x, -, hn⟩)
      · exact Nat.zero_le _
      · exact hn
      · exact hn.trans x.status.rank_le

lemma exitCode_le_two (r : Results) : r.exitCode ≤ 2 := by
  rcases le_exitCode_iff.1 (le_refl r.exitCode) with hzero | ⟨htwo, -⟩ | ⟨x, -, hx⟩
  · omega
  · exact htwo
  · exact hx.trans x.status.rank_le

/-- **More that goes wrong never makes the exit code less.** -/
lemma exitCode_mono (hfailed : r.failed ≠ [] → r'.failed ≠ [])
    (hreports : ∀ x ∈ r.reports, ∃ y ∈ r'.reports, x.status.rank ≤ y.status.rank) :
    r.exitCode ≤ r'.exitCode := by
  rw [le_exitCode_iff]
  rcases le_exitCode_iff.1 (le_refl r.exitCode) with hzero | ⟨htwo, hne⟩ | ⟨x, hx, hrank⟩
  · exact .inl hzero
  · exact .inr (.inl ⟨htwo, hfailed hne⟩)
  · obtain ⟨y, hy, hxy⟩ := hreports x hx
    exact .inr (.inr ⟨y, hy, hrank.trans hxy⟩)

/-- The number of reports of each status, all together. -/
lemma sum_count (r : Results) : (Status.all.map r.count).sum = r.reports.length := by
  simp only [Status.all, List.map_cons, List.map_nil, List.sum_cons, List.sum_nil, count]
  induction r.reports with
  | nil => rfl
  | cons x xs ih =>
    simp only [List.filter_cons]
    cases x.status <;> simp <;> omega

/-- What the exit code of results depends on, and how. -/
structure Steady (r : Results) : Prop where
  /-- The order of the reports plays no part. -/
  order : ∀ reports, reports.Perm r.reports → { r with reports := reports }.exitCode = r.exitCode
  /-- With more reports it does not get less. -/
  reports : ∀ file reports, r.exitCode ≤ (r.pass file reports).exitCode
  subset : ∀ reports, r.reports ⊆ reports → r.exitCode ≤ { r with reports := reports }.exitCode
  /-- With one more template that failed it does not get less. -/
  failed : ∀ file reason, r.exitCode ≤ (r.fail file reason).exitCode
  /-- Log entries play no part. -/
  logs : ∀ reports, (reports.map fun x => (x.warnings, x.fatals)) =
    (r.reports.map fun x => (x.warnings, x.fatals)) →
      { r with reports := reports }.exitCode = r.exitCode
  /-- Every report is counted once. -/
  counts : (Status.all.map r.count).sum = r.reports.length

theorem steady (r : Results) : r.Steady where
  order reports hperm := by
    refine le_antisymm (exitCode_mono id fun x hx => ?_) (exitCode_mono id fun x hx => ?_)
    · exact ⟨x, hperm.mem_iff.1 hx, le_rfl⟩
    · exact ⟨x, hperm.mem_iff.2 hx, le_rfl⟩
  reports file reports :=
    exitCode_mono id fun x hx => ⟨x, List.mem_append.2 (.inl hx), le_rfl⟩
  subset reports hsubset := exitCode_mono id fun x hx => ⟨x, hsubset hx, le_rfl⟩
  failed file reason := by
    have hreports := Batch.reports_fail r file reason
    refine exitCode_mono (fun hne => ?_) fun x hx => ⟨x, by rwa [hreports], le_rfl⟩
    have hfile : file ∈ (r.fail file reason).failed.map (·.1) :=
      Batch.mem_failed_fail.2 (.inl rfl)
    rintro hnil
    rw [hnil] at hfile
    cases hfile
  logs reports hsame := by
    refine le_antisymm (exitCode_mono id fun y hy => ?_) (exitCode_mono id fun x hx => ?_)
    · obtain ⟨x, hx, hyx⟩ := Report.exists_status_eq hsame hy
      exact ⟨x, hx, (congrArg Status.rank hyx).le⟩
    · obtain ⟨y, hy, hxy⟩ := Report.exists_status_eq hsame.symm hx
      exact ⟨y, hy, (congrArg Status.rank hxy).le⟩
  counts := sum_count r

/-- In sorted reports the exit code tells which entries there are. -/
lemma two_le_exitCode_iff (h : ∀ x ∈ r.reports, x.Sorted) :
    2 ≤ r.exitCode ↔ r.failed ≠ [] ∨ r.Holds .fatal := by
  rw [le_exitCode_iff]
  constructor
  · rintro (hzero | ⟨-, hfailed⟩ | ⟨x, hx, hrank⟩)
    · cases hzero
    · exact .inl hfailed
    · exact .inr ⟨x, hx, (h x hx).holds_fatal_iff.2 (Report.two_le_rank_iff.1 hrank)⟩
  · rintro (hfailed | ⟨x, hx, hfatal⟩)
    · exact .inr (.inl ⟨le_rfl, hfailed⟩)
    · exact .inr (.inr ⟨x, hx, Report.two_le_rank_iff.2 ((h x hx).holds_fatal_iff.1 hfatal)⟩)

lemma one_le_exitCode_iff (h : ∀ x ∈ r.reports, x.Sorted) :
    1 ≤ r.exitCode ↔ r.failed ≠ [] ∨ r.Holds .fatal ∨ r.Holds .warn := by
  rw [le_exitCode_iff]
  constructor
  · rintro (hzero | ⟨-, hfailed⟩ | ⟨x, hx, hrank⟩)
    · cases hzero
    · exact .inl hfailed
    · rcases Report.one_le_rank_iff.1 hrank with hfatals | hwarnings
      · exact .inr (.inl ⟨x, hx, (h x hx).holds_fatal_iff.2 hfatals⟩)
      · exact .inr (.inr ⟨x, hx, (h x hx).holds_warn_iff.2 hwarnings⟩)
  · rintro (hfailed | ⟨x, hx, hfatal⟩ | ⟨x, hx, hwarn⟩)
    · exact .inr (.inl ⟨by decide, hfailed⟩)
    · have hfatals := (h x hx).holds_fatal_iff.1 hfatal
      exact .inr (.inr ⟨x, hx, Report.one_le_rank_iff.2 (.inl hfatals)⟩)
    · have hwarnings := (h x hx).holds_warn_iff.1 hwarn
      exact .inr (.inr ⟨x, hx, Report.one_le_rank_iff.2 (.inr hwarnings)⟩)

end Results

/-! ### Entries and the acts that record them -/

/-- An act that succeeds leaves an entry of a severity behind just if it records with that
severity. -/
lemma recorded_iff {w : View} {rule key : String} {a : Act} {e : Effect} {v : Severity}
    (h : a.effect w rule key = .ok e) :
    (∃ d, e = .recorded d ∧ d.severity = v) ↔ ∃ message line, a = .record v message line := by
  cases a with
  | record v' message line =>
    simp only [Act.effect] at h
    split at h
    · cases h
      constructor
      · rintro ⟨d, hd, rfl⟩
        cases hd
        exact ⟨message, line, by rw [diagnostic_severity]⟩
      · rintro ⟨message', line', hrecord⟩
        cases hrecord
        exact ⟨_, rfl, diagnostic_severity ..⟩
    · cases h
  | note o =>
    cases h
    simp
  | fail f => cases h

/-- Acts of which none fails leave an entry of a severity behind just if one of them records with
that severity. -/
lemma exists_recorded_iff {w : View} {rule key : String} {as : List Act} {v : Severity}
    (h : (effectsOf w rule key as).2 = none) :
    (∃ d, Effect.recorded d ∈ (effectsOf w rule key as).1 ∧ d.severity = v) ↔
      ∃ message line, Act.record v message line ∈ as := by
  induction as with
  | nil => simp [effectsOf]
  | cons a as ih =>
    rw [effectsOf] at h ⊢
    cases ha : a.effect w rule key with
    | error f =>
      rw [ha] at h
      cases h
    | ok e =>
      rw [ha] at h
      have hhead := recorded_iff (v := v) ha
      constructor
      · rintro ⟨d, hd, hv⟩
        rcases List.mem_cons.1 hd with hd | hd
        · obtain ⟨message, line, rfl⟩ := hhead.1 ⟨d, hd.symm, hv⟩
          exact ⟨message, line, List.mem_cons_self⟩
        · obtain ⟨message, line, hmem⟩ := (ih h).1 ⟨d, hd, hv⟩
          exact ⟨message, line, List.mem_cons_of_mem _ hmem⟩
      · rintro ⟨message, line, hmem⟩
        rcases List.mem_cons.1 hmem with hmem | hmem
        · obtain ⟨d, rfl, hv⟩ := hhead.2 ⟨message, line, hmem.symm⟩
          exact ⟨d, List.mem_cons_self, hv⟩
        · obtain ⟨d, hd, hv⟩ := (ih h).2 ⟨message, line, hmem⟩
          exact ⟨d, List.mem_cons_of_mem _ hd, hv⟩

lemma mem_diagnosticsOf {es : List Effect} {d : Diagnostic} :
    d ∈ diagnosticsOf es ↔ Effect.recorded d ∈ es := by
  rw [diagnosticsOf, List.mem_filterMap]
  constructor
  · rintro ⟨e, he, hd⟩
    cases e with
    | recorded d' =>
      cases hd
      exact he
    | noted o => cases hd
  · exact fun hd => ⟨_, hd, rfl⟩

lemma sorted_reportOf (w : View) (ds : List Diagnostic) : (Lint.reportOf w ds).Sorted where
  logs _ hd := of_decide_eq_true (List.mem_filter.1 hd).2
  warnings _ hd := of_decide_eq_true (List.mem_filter.1 hd).2
  fatals _ hd := of_decide_eq_true (List.mem_filter.1 hd).2

lemma mem_diagnostics_reportOf {w : View} {ds : List Diagnostic} {d : Diagnostic} :
    d ∈ (Lint.reportOf w ds).diagnostics ↔ d ∈ ds := by
  simp only [Report.diagnostics, Lint.reportOf, List.mem_append, List.mem_filter,
    decide_eq_true_eq]
  constructor
  · rintro ((⟨hd, -⟩ | ⟨hd, -⟩) | ⟨hd, -⟩) <;> exact hd
  · intro hd
    cases hv : d.severity with
    | log => exact .inl (.inl ⟨hd, rfl⟩)
    | warn => exact .inl (.inr ⟨hd, rfl⟩)
    | fatal => exact .inr ⟨hd, rfl⟩

namespace Portion

open Walk

variable {p : Portion} {t : RuleTable} {filename app : Option String} {v : Severity}

/-- Some rule records with a severity in the walk through a portion. -/
def Records (p : Portion) (t : RuleTable) (filename app : Option String) (v : Severity) : Prop :=
  ∃ c ∈ calls t (moments p.levels ⟨p.root, []⟩), ∃ message line,
    Act.record v message line ∈ c.registration.callback (some (p.view filename app)) c.visit

/-- **The report of a portion holds what rules have recorded**, if its walk goes to its end. -/
theorem holds_report_iff (h : (p.trace t filename app).fault = none) :
    (p.report t filename app).Holds v ↔ p.Records t filename app v := by
  set w := p.view filename app
  have hquiet : ∀ c ∈ calls t (moments p.levels ⟨p.root, []⟩), c.fault? w = none :=
    quiet_of_trace (n := 0) fun f hf => by
      have hnone : (Walk.trace w t (moments p.levels ⟨p.root, []⟩) 0).fault = none := h
      rw [hnone] at hf
      cases hf
  have heffects : (p.trace t filename app).effects =
      (calls t (moments p.levels ⟨p.root, []⟩)).flatMap (·.effects w) :=
    congrArg Trace.effects (trace_of_quiet hquiet 0)
  have hcall : ∀ c ∈ calls t (moments p.levels ⟨p.root, []⟩),
      (effectsOf w c.rule c.key (c.registration.callback (some w) c.visit)).2 = none := fun c hc =>
    Option.map_eq_none_iff.1 (hquiet c hc)
  constructor
  · rintro ⟨d, hd, hv⟩
    have hmem := mem_diagnosticsOf.1 (mem_diagnostics_reportOf.1 hd)
    rw [heffects] at hmem
    obtain ⟨c, hc, hmem⟩ := List.mem_flatMap.1 hmem
    exact ⟨c, hc, (exists_recorded_iff (hcall c hc)).1 ⟨d, hmem, hv⟩⟩
  · rintro ⟨c, hc, hrecord⟩
    obtain ⟨d, hmem, hv⟩ := (exists_recorded_iff (hcall c hc)).2 hrecord
    refine ⟨d, mem_diagnostics_reportOf.2 (mem_diagnosticsOf.2 ?_), hv⟩
    rw [heffects]
    exact List.mem_flatMap.2 ⟨c, hc, hmem⟩

end Portion

namespace Batch

variable {files : FileTree} {s : Settings} {target : Path} {t : RuleTable} {reach : Linter.Reach}
  {found : List Path} {r : Results}

/-- The directory from which the templates of a run are named. -/
def baseOf (files : FileTree) (target : Path) : Path :=
  if files.isDirectory target then target else target.parent

/-- What the exit code tells of a run that has found templates. -/
structure Truthful (files : FileTree) (s : Settings) (t : RuleTable) (reach : Linter.Reach)
    (target : Path) (found : List Path) (r : Results) : Prop where
  /-- Templates fail that have been found, or the target does if there are none. -/
  failed : ∀ file ∈ r.failed.map (·.1), file ∈ found ∨ found = [] ∧ file = target
  empty : found = [] → r.failed = [(target, emptyReason)]
  /-- The entries of the reports are those that rules have recorded for a linted template. -/
  records : ∀ v, r.Holds v ↔ ∃ file ∈ r.linted, ∃ p ∈ portionsOf files s t reach file,
    p.Records t (titleOf (baseOf files target) file) s.app v
  fatal : r.exitCode = 2 ↔ r.failed ≠ [] ∨ r.Holds .fatal
  warning : r.exitCode = 1 ↔ r.failed = [] ∧ ¬r.Holds .fatal ∧ r.Holds .warn
  passed : r.exitCode = 0 ↔ r.failed = [] ∧ ¬r.Holds .fatal ∧ ¬r.Holds .warn

lemma truthful_of_sorted (hsorted : ∀ x ∈ r.reports, x.Sorted)
    (hfailed : ∀ file ∈ r.failed.map (·.1), file ∈ found ∨ found = [] ∧ file = target)
    (hempty : found = [] → r.failed = [(target, emptyReason)])
    (hrecords : ∀ v, r.Holds v ↔ ∃ file ∈ r.linted, ∃ p ∈ portionsOf files s t reach file,
      p.Records t (titleOf (baseOf files target) file) s.app v) :
    Truthful files s t reach target found r := by
  have htwo := Results.two_le_exitCode_iff hsorted
  have hone := Results.one_le_exitCode_iff hsorted
  have hle := r.exitCode_le_two
  refine ⟨hfailed, hempty, hrecords, ?_, ?_, ?_⟩
  · rw [← htwo]
    omega
  · have hexact : r.exitCode = 1 ↔ ¬2 ≤ r.exitCode ∧ 1 ≤ r.exitCode := by omega
    rw [hexact, htwo, hone, not_or, not_not, and_assoc]
    constructor
    · rintro ⟨hfailed, hfatal, hsome⟩
      have hentry := hsome.resolve_left fun hne => hne hfailed
      exact ⟨hfailed, hfatal, hentry.resolve_left hfatal⟩
    · rintro ⟨hfailed, hfatal, hwarn⟩
      exact ⟨hfailed, hfatal, .inr (.inr hwarn)⟩
  · have hexact : r.exitCode = 0 ↔ ¬1 ≤ r.exitCode := by omega
    rw [hexact, hone, not_or, not_or, not_not]

/-- The results of a batch that goes to its end. -/
lemma truthful_noteAll (hfound : found ≠ []) : Truthful files s t reach target found
    (noteAll (verdict files (baseOf files target) (linterOf s t reach).configuration)
      found {}) := by
  set r := noteAll (verdict files (baseOf files target) (linterOf s t reach).configuration) found {}
    with hr
  obtain ⟨hreports, hown⟩ := reports_noteAll_verdict files (baseOf files target) s t reach found
  rw [← hr] at hreports hown
  have hportion : ∀ x ∈ r.reports, ∃ file ∈ r.linted, ∃ p ∈ portionsOf files s t reach file,
      x = p.report t (titleOf (baseOf files target) file) s.app := by
    intro x hx
    rw [hreports] at hx
    obtain ⟨file, hfile, hx⟩ := List.mem_flatMap.1 hx
    obtain ⟨p, hp, rfl⟩ := List.mem_map.1 hx
    exact ⟨file, hfile, p, hp, rfl⟩
  refine truthful_of_sorted ?_ ?_ (fun h => absurd h hfound) fun v => ?_
  · intro x hx
    obtain ⟨file, -, p, -, rfl⟩ := hportion x hx
    exact sorted_reportOf ..
  · intro file hfile
    rcases mem_failed_noteAll.1 hfile with ⟨hfile, -⟩ | hfile
    · exact .inl hfile
    · cases hfile
  · constructor
    · rintro ⟨x, hx, hv⟩
      obtain ⟨file, hfile, p, hp, rfl⟩ := hportion x hx
      exact ⟨file, hfile, p, hp, (Portion.holds_report_iff ((hown file hfile).1 p hp)).1 hv⟩
    · rintro ⟨file, hfile, p, hp, hv⟩
      refine ⟨p.report t (titleOf (baseOf files target) file) s.app, ?_,
        (Portion.holds_report_iff ((hown file hfile).1 p hp)).2 hv⟩
      rw [hreports]
      exact List.mem_flatMap.2 ⟨file, hfile, List.mem_map.2 ⟨p, hp, rfl⟩⟩

lemma truthful_nil (files : FileTree) (s : Settings) (t : RuleTable) (reach : Linter.Reach)
    (target : Path) :
    Truthful files s t reach target [] (({} : Results).fail target emptyReason) := by
  refine truthful_of_sorted (by simp [Results.fail]) ?_ (fun _ => rfl) fun v => ?_
  · intro file hfile
    have hsingle : file ∈ [target] := hfile
    exact .inr ⟨rfl, List.mem_singleton.1 hsingle⟩
  · simp [Results.Holds, Results.fail]

/-- What a run comes to, stage by stage. -/
lemma results_run (files : FileTree) (s : Settings) (target : Path) (reach : Linter.Reach) :
    (run files s target reach).results =
      match (tableOf files s).table with
      | .error f => .error (.rules f)
      | .ok t =>
        match ((Discovery.collect files s target).run []).1 with
        | .error f => .error (.discovery f)
        | .ok found => (lintFound files s t target found reach).results := by
  unfold run
  dsimp only
  cases (tableOf files s).table with
  | error f => rfl
  | ok t => rcases (Discovery.collect files s target).run [] with ⟨f | found, more⟩ <;> rfl

lemma truthful_lintFound (h : (lintFound files s t target found reach).results = .ok r) :
    Truthful files s t reach target found r := by
  unfold lintFound at h
  split at h
  · cases h
    exact truthful_nil files s t reach target
  · next hne =>
    dsimp only at h
    split at h
    · cases h
    · have hall : (lintAll files (baseOf files target) found (linterOf s t reach) {}).2 = .ok r := h
      rw [eq_noteAll_of_lintAll hall]
      exact truthful_noteAll hne

/-- **The exit code tells the truth about a run.** Whatever the files, the settings and the target,
and however far down a tree can be gone, it is 2 just if a template or the target has failed or some
rule has recorded something fatal, 1 just if there is nothing worse than a warning, and 0 otherwise;
and it depends on nothing else. -/
theorem exitCode_run (files : FileTree) (s : Settings) (target : Path) (reach : Linter.Reach)
    (r : Results) (h : (run files s target reach).results = .ok r) :
    (∃ t found, (tableOf files s).table = .ok t ∧
      ((Discovery.collect files s target).run []).1 = .ok found ∧
      Truthful files s t reach target found r) ∧ ∀ r' : Results, r'.Steady := by
  refine ⟨?_, Results.steady⟩
  rw [results_run] at h
  cases ht : (tableOf files s).table with
  | error f =>
    rw [ht] at h
    cases h
  | ok t =>
    rw [ht] at h
    dsimp only at h
    cases hfound : ((Discovery.collect files s target).run []).1 with
    | error f =>
      rw [hfound] at h
      cases h
    | ok found =>
      rw [hfound] at h
      exact ⟨t, found, rfl, rfl, truthful_lintFound h⟩

/-- A file that is given is found, if there are no patterns and no ignore files are looked for. -/
lemma collect_of_no_patterns {file : Path} (hfile : files.isFile file)
    (hfiles : s.ignoreFilePatterns = []) (hgiven : s.ignorePatterns = []) :
    ((Discovery.collect files s file).run []).1 = .ok [file] := by
  have hmap : Discovery.findIgnoreFiles files file.parent [] = pure [] := by
    unfold Discovery.findIgnoreFiles
    split_ifs <;> rfl
  have hreason : Ignore.reason? file file.parent [] [] = none := by
    simp [Ignore.reason?, IgnoreMap.get]
  have hkeep : Discovery.keep s file.parent [] [file] = pure [file] := by
    simp only [Discovery.keep, hgiven, hreason, pure_bind]
  rw [Discovery.collect, if_pos hfile, hfiles, hmap, pure_bind, hkeep, pure_bind]
  rfl

/-! ### Runs with a rule that records with a given severity -/

/-- A rule that records with a severity on every output. -/
def recording (v : Severity) : Spec :=
  ⟨"outputs", [(.str "Output", some [.record v (some "seen") (.fixed none)])], [], none⟩

def ruleEntries (v : Severity) : List (Path × Content) :=
  [(⟨.here, ["rules"]⟩, .directory),
    (⟨.here, ["rules", "outputs.py"]⟩, .rule (.rule (recording v)))]

def ruledFiles (v : Severity) : FileTree := brokenAndNested (ruleEntries v)

def ruledSettings : Settings := { rulesDir := some ⟨.here, ["rules"]⟩, ignoreFilePatterns := [] }

def recordingTable (v : Severity) : RuleTable :=
  ⟨.standard, ["outputs"], [⟨"outputs", "Output", .enter, fun view visit =>
    Action.actsOf "outputs" view visit [.record v (some "seen") (.fixed none)]⟩]⟩

lemma find_ruledFiles (v : Severity) :
    (ruledFiles v).LeadsTo ⟨.here, ["rules"]⟩ ⟨.here, ["rules"]⟩ ∧
    (ruledFiles v).find ⟨.here, ["rules", "outputs.py"]⟩ =
      .ok (⟨.here, ["rules", "outputs.py"]⟩, .rule (.rule (recording v))) := by
  have hdir : (ruledFiles v).LeadsTo ⟨.here, ["rules"]⟩ ⟨.here, ["rules"]⟩ :=
    FileTree.find_child_of_at? (FileTree.leadsTo_here _) (by decide) rfl
  exact ⟨hdir, FileTree.find_child_of_at? hdir (by decide) rfl⟩

lemma ruleFiles_ruledFiles (v : Severity) : (ruledFiles v).ruleFiles ⟨.here, ["rules"]⟩ =
    .ok [⟨.here, ["rules", "outputs.py"]⟩] := by
  obtain ⟨hdir, hrule⟩ := find_ruledFiles v
  have hnames : (ruledFiles v).names ⟨.here, ["rules"]⟩ = ["outputs.py"] := by
    rw [FileTree.names, hdir]
    rfl
  have hfile : (ruledFiles v).isFile ⟨.here, ["rules", "outputs.py"]⟩ :=
    by rw [FileTree.isFile, hrule]
  rw [FileTree.ruleFiles, if_pos (FileTree.isDirectory_iff.2 ⟨_, hdir⟩), hnames,
    List.mergeSort_singleton]
  have hname : ((⟨.here, ["rules", "outputs.py"]⟩ : Path).suffix == RuleFile.suffix &&
      !(⟨.here, ["rules", "outputs.py"]⟩ : Path).name.startsWith "_") = true := by decide +kernel
  simp [Path.child, hfile, hname]


lemma table_tableOf {dir : Path} {rules : List Rule} (hdir : s.rulesDir = some dir)
    (hrules : (files.loadRules dir).2 = .ok rules) :
    (tableOf files s).table = (RuleTable.build rules).2 := by
  have hload : files.loadRules dir = ((files.loadRules dir).1, .ok rules) := Prod.ext rfl hrules
  simp only [tableOf, hdir, RuleTable.ofDirectory]
  rw [hload]
  dsimp only
  cases (RuleTable.build rules).2 <;> rfl

lemma table_ruledFiles (v : Severity) :
    (tableOf (ruledFiles v) ruledSettings).table = .ok (recordingTable v) := by
  have hsuffix : (⟨.here, ["rules", "outputs.py"]⟩ : Path).toString.endsWith RuleFile.suffix := by
    decide +kernel
  have hstem : (⟨.here, ["rules", "outputs.py"]⟩ : Path).stem = "outputs" := by decide +kernel
  have hload : (ruledFiles v).loadRule ⟨.here, ["rules", "outputs.py"]⟩ =
      .ok ((recording v).toRule "outputs" (some ⟨.here, ["rules", "outputs.py"]⟩)) := by
    rw [FileTree.loadRule, hsuffix, FileTree.ruleFile, (find_ruledFiles v).2]
    simp [hstem]
  have hrules : ((ruledFiles v).loadRules ⟨.here, ["rules"]⟩).2 =
      .ok [(recording v).toRule "outputs" (some ⟨.here, ["rules", "outputs.py"]⟩)] := by
    rw [FileTree.loadRules, ruleFiles_ruledFiles]
    simp only [bind, Except.bind, List.mapM_cons, List.mapM_nil, hload, pure, Except.pure]
  exact table_tableOf rfl hrules

lemma severity_of_records {p : Portion} {filename app : Option String} {v v' : Severity}
    (h : p.Records (recordingTable v) filename app v') : v' = v := by
  obtain ⟨c, hc, message, line, hact⟩ := h
  have hmem := Walk.mem_registrations_of_mem_calls hc
  rw [List.mem_singleton.1 hmem] at hact
  simp only [Action.actsOf, Action.acts, Action.labelled, List.append_nil,
    List.mem_singleton] at hact
  split at hact
  · cases hact
    rfl
  · cases hact

lemma isOk_recordingTable (v : Severity) : ∀ r ∈ Linter.nestedRegions, ∀ w,
    (Lint.outcomeOf (recordingTable v) Linter.usualLevels w r.root).isOk := by
  intro r hr w
  rcases List.mem_pair.1 hr with rfl | rfl
  · rfl
  · cbv

/-- In the outer block of the nest there is an output. -/
lemma records_recordingTable {v : Severity} {p : Portion} {r : Grammar.Region}
    (hr : r ∈ Linter.nestedRegions) (hbody : r.body ≠ []) (hroot : p.root = r.root)
    (hlevels : p.levels = Linter.usualLevels) (filename app : Option String) :
    p.Records (recordingTable v) filename app v := by
  unfold Portion.Records
  rw [hroot, hlevels]
  rcases List.mem_pair.1 hr with rfl | rfl
  · exact absurd rfl hbody
  · exact ⟨_, List.mem_singleton.2 rfl, _, _, List.mem_singleton.2 rfl⟩


lemma exists_portion_nested (more : List (Path × Content)) (t : RuleTable) (reach : Linter.Reach)
    {s : Settings} (hdialect : s.dialect = {}) (hextensions : s.extensions = [])
    (hmode : s.mode = .block) :
    ∃ r ∈ Linter.nestedRegions, r.body ≠ [] ∧
      ∃ p ∈ portionsOf (brokenAndNested more) s t reach ⟨.here, ["t", "b.html"]⟩,
        p.root = r.root ∧ p.levels = reach (some r) := by
  set c := (linterOf s t reach).configuration with hc
  have htext : c.preprocessed Linter.nestedSource = Linter.nestedSource := by
    simp [hc, linterOf, Configuration.preprocessed, Linter.configuration]
  have hcdialect : c.dialect = {} := hdialect
  have hcextensions : c.extensions = [.lint, .inspect] := by
    simp [hc, linterOf, Linter.configuration, hextensions]
  obtain ⟨tree, htree⟩ := Linter.exists_tree_nestedStream
  obtain ⟨tokens, htokens, -⟩ := Grammar.matches_readFrom Linter.start_nestedSource htree
  have hportions : c.portions Linter.nestedSource =
      Linter.nestedRegions.filterMap (Grammar.Region.portion? tokens reach) := by
    simp only [Configuration.portions, htext, hcdialect, hcextensions,
      Linter.grammar_nestedSource, htree, htokens, Linter.regions_nestedStream]
    rw [show c.mode = .block from hmode]
    rfl
  obtain ⟨outer, houter, hbody, hordinal⟩ : ∃ r ∈ Linter.nestedRegions, r.body ≠ [] ∧
      r.ordinal? = some 0 := ⟨_, .tail _ (.head _), by simp, rfl⟩
  refine ⟨outer, houter, hbody, ⟨outer.root,
    .ofTokens (Block.extract tokens 0).tokens, reach (some outer)⟩, ?_, rfl, rfl⟩
  rw [portionsOf, (readTemplate_brokenAndNested more).2]
  dsimp only
  rw [← hc, hportions]
  exact List.mem_filterMap.2 ⟨outer, houter, by rw [Grammar.Region.portion?, hordinal]; rfl⟩


lemma run_ruledFiles (v : Severity) (file : Path)
    (hfile : file ∈ [(⟨.here, ["t", "a.html"]⟩ : Path), ⟨.here, ["t", "b.html"]⟩]) :
    (run (ruledFiles v) ruledSettings file).results = .ok (noteAll
      (verdict (ruledFiles v) (baseOf (ruledFiles v) file)
        (linterOf ruledSettings (recordingTable v)).configuration) [file] {}) := by
  have hisFile : (ruledFiles v).isFile file := by
    rcases List.mem_pair.1 hfile with rfl | rfl
    · rw [FileTree.isFile, ruledFiles, brokenAndNested, twoTemplates, (find_twoFiles _ _ _).1]
    · rw [FileTree.isFile, ruledFiles, brokenAndNested, twoTemplates, (find_twoFiles _ _ _).2]
  have hexpected : ∀ file' ∈ [file], (verdict (ruledFiles v) (baseOf (ruledFiles v) file)
      (linterOf ruledSettings (recordingTable v)).configuration file').isExpected := by
    intro file' hfile'
    rw [List.mem_singleton.1 hfile']
    exact Verdict.isExpected_of_forall fun f hf =>
      (isCaught_of_sturdy (sturdy_brokenAndNested _ rfl rfl rfl file hfile) hf).isExpected
  rw [results_run, table_ruledFiles, collect_of_no_patterns hisFile rfl rfl]
  exact lintAll_of_expected hexpected {}

lemma failed_noteAll_singleton {v : Path → Verdict} {file : Path} :
    (noteAll v [file] {}).failed = [] ↔ (v file).isOk := by
  rw [failed_noteAll (List.nodup_singleton file) (by simp), ← Verdict.reason?_eq_none_iff]
  cases hreason : (v file).reason? <;> simp [hreason]

/-- The broken template fails, whatever the rule records. On the nest behind it the exit code is
that of what the rule records. -/
theorem exitCode_run_broken :
    let a : Path := ⟨.here, ["t", "a.html"]⟩
    let b : Path := ⟨.here, ["t", "b.html"]⟩
    (∃ r, (run (ruledFiles .log) ruledSettings a).results = .ok r ∧ r.failed ≠ [] ∧
      r.exitCode = 2) ∧
    (∃ r, (run (ruledFiles .log) ruledSettings b).results = .ok r ∧ r.failed = [] ∧
      r.Holds .log ∧ r.exitCode = 0) ∧
    (∃ r, (run (ruledFiles .warn) ruledSettings b).results = .ok r ∧ r.failed = [] ∧
      r.Holds .warn ∧ r.exitCode = 1) ∧
    ∃ r, (run (ruledFiles .fatal) ruledSettings b).results = .ok r ∧ r.failed = [] ∧
      r.Holds .fatal ∧ r.exitCode = 2 := by
  intro a b
  -- the nest is linted, and its reports hold what the rule records and nothing else
  have hnest : ∀ v, ∃ r, (run (ruledFiles v) ruledSettings b).results = .ok r ∧ r.failed = [] ∧
      (∀ v', r.Holds v' ↔ v' = v) ∧ (r.exitCode = 2 ↔ r.failed ≠ [] ∨ r.Holds .fatal) ∧
      (r.exitCode = 1 ↔ r.failed = [] ∧ ¬r.Holds .fatal ∧ r.Holds .warn) ∧
      (r.exitCode = 0 ↔ r.failed = [] ∧ ¬r.Holds .fatal ∧ ¬r.Holds .warn) := by
    intro v
    have hrun := run_ruledFiles v b (.tail _ (.head _))
    have hok : (verdict (ruledFiles v) (baseOf (ruledFiles v) b)
        (linterOf ruledSettings (recordingTable v)).configuration b).isOk :=
      isOk_verdict_nested (ruleEntries v) rfl rfl rfl _ (isOk_recordingTable v)
    obtain ⟨⟨t, found, ht, -, htruth⟩, -⟩ :=
      exitCode_run (ruledFiles v) ruledSettings b (fun _ => Linter.usualLevels) _ hrun
    obtain rfl : t = recordingTable v := Except.ok.inj (ht.symm.trans (table_ruledFiles v))
    refine ⟨_, hrun, failed_noteAll_singleton.2 hok, fun v' => ?_, htruth.fatal, htruth.warning,
      htruth.passed⟩
    rw [htruth.records]
    constructor
    · rintro ⟨file, -, p, -, hrecords⟩
      exact severity_of_records hrecords
    · rintro rfl
      obtain ⟨r, hr, hbody, p, hp, hroot, hlevels⟩ := exists_portion_nested (ruleEntries v')
        (recordingTable v') (fun _ => Linter.usualLevels) (s := ruledSettings) rfl rfl rfl
      refine ⟨b, ?_, p, hp, records_recordingTable hr hbody hroot hlevels _ _⟩
      rw [linted_noteAll]
      exact List.mem_append_right _ (List.mem_filter.2 ⟨List.mem_singleton.2 rfl, hok⟩)
  have hlog := run_ruledFiles .log a List.mem_cons_self
  obtain ⟨⟨t, found, -, -, hbroken⟩, -⟩ :=
    exitCode_run (ruledFiles .log) ruledSettings a (fun _ => Linter.usualLevels) _ hlog
  have hnot : (verdict (ruledFiles .log) (baseOf (ruledFiles .log) a)
      (linterOf ruledSettings (recordingTable .log)).configuration a).isOk = false :=
    isOk_verdict_broken (ruleEntries .log) rfl rfl rfl _
  have hfailed := mt failed_noteAll_singleton.1 (ne_true_of_eq_false hnot)
  obtain ⟨rlog, hlogs, hlogsFailed, hlogsHold, -, -, hlogsPassed⟩ := hnest .log
  obtain ⟨rwarn, hwarns, hwarnsFailed, hwarnsHold, -, hwarnsWarning, -⟩ := hnest .warn
  obtain ⟨rfatal, hfatals, hfatalsFailed, hfatalsHold, hfatalsFatal, -, -⟩ := hnest .fatal
  refine ⟨⟨_, hlog, hfailed, hbroken.fatal.2 (.inl hfailed)⟩,
    ⟨rlog, hlogs, hlogsFailed, (hlogsHold _).2 rfl, hlogsPassed.2 ⟨hlogsFailed, ?_, ?_⟩⟩,
    ⟨rwarn, hwarns, hwarnsFailed, (hwarnsHold _).2 rfl,
      hwarnsWarning.2 ⟨hwarnsFailed, ?_, (hwarnsHold _).2 rfl⟩⟩,
    ⟨rfatal, hfatals, hfatalsFailed, (hfatalsHold _).2 rfl,
      hfatalsFatal.2 (.inr ((hfatalsHold _).2 rfl))⟩⟩
  · rw [hlogsHold]
    decide
  · rw [hlogsHold]
    decide
  · rw [hwarnsHold]
    decide

end Batch

end TemplateLint
