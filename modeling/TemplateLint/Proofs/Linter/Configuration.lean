import TemplateLint.Linter
import TemplateLint.Proofs.Lexeme.Evaluation
import TemplateLint.Proofs.Walk.Document

/-!
What a linter answers, apart from the state that it is in.

A linter keeps reports, dumps, the source of the last template, the number of its open tags, a rule
table and a session. Its answers depend on none of these, but on its configuration alone: each
operation leaves the configuration as it is, opens no document for longer than it takes, and adds
reports that the configuration determines (`Adds`). Main statement: `lint_eq`.
-/

namespace TemplateLint

/-- What the answers of a linter depend on. -/
structure Configuration where
  dialect : Dialect
  extensions : List Grammar.Extension
  replacements : List (String × String)
  /-- The rule table, or why there is none. -/
  rules : Except ConfigFault RuleTable
  app : Option String
  mode : Mode
  raises : Bool
  reach : Linter.Reach

namespace Configuration

open Linter (Fault Failed firstText)

variable (c : Configuration)

def preprocessed (source : String) : String :=
  c.replacements.foldl (fun s r => Text.replaceAll r.1 r.2 s) source

/-- The outcome of linting a tree, as far as the given number of levels goes. -/
def treeReport (levels : Nat) (root : Node) (index : SourceIndex)
    (name filename : Option String) : Except Fault Report :=
  match c.rules with
  | .error f => .error (.rules f)
  | .ok t =>
    (Lint.outcomeOf t levels (Lint.viewOf root index (firstText filename name) c.app)
      root).mapError .walk

def regionReport (text : String) (r : Grammar.Region) (ordinal : Nat)
    (name filename : Option String) : Except Fault Report :=
  match tokenize c.dialect text with
  | .error f => .error (.lexical f)
  | .ok tokens =>
    c.treeReport (c.reach (some r)) r.root (.ofTokens (Block.extract tokens ordinal).tokens)
      name filename

/-- Whether a region is inspected and goes further down than it can be described. -/
def Undescribed (r : Grammar.Region) : Prop :=
  r.purpose = .inspect ∧ r.root.describe? (c.reach (some r)) = none

/-- All regions of a template that are to be inspected can be described. -/
def Describes (source : String) : Prop :=
  ∀ r ∈ (Grammar.read c.dialect c.extensions (c.preprocessed source)).regions, ¬c.Undescribed r

/-- The report of a region, if it is linted, and its fault. -/
def closing (text : String) (name filename : Option String) (r : Grammar.Region) :
    List Report × Option Fault :=
  match r.purpose with
  | .inspect =>
    match r.root.describe? (c.reach (some r)) with
    | none => ([], some .undescribed)
    | some _ => ([], none)
  | .lint ordinal =>
    if c.mode = .block then
      match c.regionReport text r ordinal name filename with
      | .error f => ([], some f)
      | .ok report =>
        ([report], if report.failed && c.raises then some (.failed ⟨report, r.line, name, filename⟩)
          else none)
    else ([], none)

/-- The reports of regions up to the first one that fails, and its fault. -/
def closings (text : String) (name filename : Option String) :
    List Grammar.Region → List Report × Option Fault
  | [] => ([], none)
  | r :: rs =>
    match c.closing text name filename r with
    | (a, some f) => (a, some f)
    | (a, none) =>
      (a ++ (closings text name filename rs).1, (closings text name filename rs).2)

section

variable {c : Configuration} {text : String} {name filename : Option String} {r : Grammar.Region}
  {k : Nat} {t : RuleTable} {tokens : List Token}

lemma closing_of_undescribed (h : c.Undescribed r) :
    c.closing text name filename r = ([], some .undescribed) := by
  simp only [closing, h.1, h.2]

lemma closing_of_inspect (hr : r.purpose = .inspect) (h : ¬c.Undescribed r) :
    c.closing text name filename r = ([], none) := by
  cases hd : r.root.describe? (c.reach (some r)) with
  | none => exact absurd ⟨hr, hd⟩ h
  | some lines => simp only [closing, hr, hd]

lemma closing_of_error (hm : c.mode = .block) (hr : r.purpose = .lint k) {f : Fault}
    (h : c.regionReport text r k name filename = .error f) :
    c.closing text name filename r = ([], some f) := by
  simp only [closing, hr, if_pos hm, h]

lemma closing_of_ok (hm : c.mode = .block) (hr : r.purpose = .lint k) {report : Report}
    (h : c.regionReport text r k name filename = .ok report) :
    c.closing text name filename r =
      ([report], if report.failed && c.raises then some (.failed ⟨report, r.line, name, filename⟩)
        else none) := by
  simp only [closing, hr, if_pos hm, h]

lemma closing_of_mode (hm : c.mode ≠ .block) (hr : r.purpose = .lint k) :
    c.closing text name filename r = ([], none) := by
  simp only [closing, hr, if_neg hm]

/-- If failing reports are not raised, only a region that has no report or no description stops the
reading. -/
lemma exists_of_closing_fault (hraises : c.raises = false) {f : Fault}
    (h : (c.closing text name filename r).2 = some f) :
    (f = .undescribed ∧ c.Undescribed r) ∨
      ∃ k, c.regionReport text r k name filename = .error f := by
  by_cases hd : c.Undescribed r
  · rw [closing_of_undescribed hd] at h
    exact .inl ⟨(Option.some.inj h).symm, hd⟩
  cases hr : r.purpose with
  | inspect =>
    rw [closing_of_inspect hr hd] at h
    cases h
  | lint k =>
    by_cases hm : c.mode = .block
    · cases hreport : c.regionReport text r k name filename with
      | error g =>
        rw [closing_of_error hm hr hreport] at h
        obtain rfl := Option.some.inj h
        exact .inr ⟨k, hreport⟩
      | ok report =>
        rw [closing_of_ok hm hr hreport, hraises, Bool.and_false] at h
        cases h
    · rw [closing_of_mode hm hr] at h
      cases h

lemma exists_of_closings_fault {rs : List Grammar.Region} {f : Fault}
    (h : (c.closings text name filename rs).2 = some f) :
    ∃ r ∈ rs, (c.closing text name filename r).2 = some f := by
  induction rs with
  | nil => cases h
  | cons r rs ih =>
    rw [closings] at h
    rcases hc : c.closing text name filename r with ⟨a, _ | g⟩ <;> rw [hc] at h
    · obtain ⟨r', hr', hf⟩ := ih h
      exact ⟨r', List.mem_cons_of_mem _ hr', hf⟩
    · exact ⟨r, List.mem_cons_self, by rw [hc]; exact h⟩

lemma exists_regionReport (hrules : c.rules = .ok t)
    (htokens : tokenize c.dialect text = .ok tokens)
    (hok : ∀ w, (Lint.outcomeOf t (c.reach (some r)) w r.root).isOk) (k : Nat) :
    ∃ report, c.regionReport text r k name filename = .ok report := by
  obtain ⟨report, hreport⟩ := exists_eq_ok (hok (Lint.viewOf r.root
    (.ofTokens (Block.extract tokens k).tokens) (firstText filename name) c.app))
  simp only [regionReport, htokens, treeReport, hrules, hreport]
  exact ⟨report, rfl⟩

/-- With rules and tokens at hand and no report raised, only the description or the walk of a region
stops the reading. -/
lemma closing_fault (hraises : c.raises = false) (hrules : c.rules = .ok t)
    (htokens : tokenize c.dialect text = .ok tokens) {r : Grammar.Region} {f : Fault}
    (h : (c.closing text name filename r).2 = some f) :
    (f = .undescribed ∧ c.Undescribed r) ∨
      ∃ index g, f = .walk g ∧
        Lint.outcomeOf t (c.reach (some r))
          (Lint.viewOf r.root index (firstText filename name) c.app) r.root = .error g := by
  refine (exists_of_closing_fault hraises h).imp_right fun ⟨k, hreport⟩ => ?_
  simp only [regionReport, htokens, treeReport, hrules] at hreport
  cases ho : Lint.outcomeOf t (c.reach (some r))
      (Lint.viewOf r.root (.ofTokens (Block.extract tokens k).tokens) (firstText filename name)
        c.app) r.root with
  | ok report =>
    rw [ho] at hreport
    cases hreport
  | error g =>
    rw [ho] at hreport
    cases hreport
    exact ⟨_, g, rfl, ho⟩

lemma closings_fault (hraises : c.raises = false) (hrules : c.rules = .ok t)
    (htokens : tokenize c.dialect text = .ok tokens) {rs : List Grammar.Region} {f : Fault}
    (h : (c.closings text name filename rs).2 = some f) :
    ∃ r ∈ rs, (f = .undescribed ∧ c.Undescribed r) ∨
      ∃ index g, f = .walk g ∧
        Lint.outcomeOf t (c.reach (some r))
          (Lint.viewOf r.root index (firstText filename name) c.app) r.root = .error g := by
  obtain ⟨r, hr, hf⟩ := exists_of_closings_fault h
  exact ⟨r, hr, closing_fault hraises hrules htokens hf⟩

/-- Regions that are all closed can be described if they are inspected. -/
lemma not_undescribed_of_closings {rs : List Grammar.Region}
    (h : (c.closings text name filename rs).2 = none) : ∀ r ∈ rs, ¬c.Undescribed r := by
  induction rs with
  | nil => simp
  | cons r rs ih =>
    rw [closings] at h
    rcases hc : c.closing text name filename r with ⟨a, _ | f⟩ <;> rw [hc] at h
    · refine List.forall_mem_cons.2 ⟨fun hr => ?_, ih h⟩
      rw [closing_of_undescribed hr] at hc
      cases hc
    · cases h

lemma closing_fst_of_inspect (hr : r.purpose = .inspect) :
    (c.closing text name filename r).1 = [] := by
  by_cases hd : c.Undescribed r
  · rw [closing_of_undescribed hd]
  · rw [closing_of_inspect hr hd]

/-- Outside of block mode no region has a report. -/
lemma closings_fst_of_mode (hm : c.mode ≠ .block) (rs : List Grammar.Region) :
    (c.closings text name filename rs).1 = [] := by
  have hfirst : ∀ r, (c.closing text name filename r).1 = [] := by
    intro r
    cases hr : r.purpose with
    | inspect => exact closing_fst_of_inspect hr
    | lint k => rw [closing_of_mode hm hr]
  induction rs with
  | nil => rfl
  | cons r rs ih =>
    have hr := hfirst r
    rw [closings]
    rcases hc : c.closing text name filename r with ⟨a, _ | f⟩ <;> rw [hc] at hr
    · simp [show a = [] from hr, ih]
    · exact hr

end

/-- The reports of the regions of a template, and its tree. -/
def read (source : String) (name filename : Option String) : List Report × Except Fault Node :=
  let text := c.preprocessed source
  match Grammar.Stream.start c.dialect text with
  | .error f => ([], .error (.grammar f))
  | .ok st =>
    let o := Grammar.readFrom c.extensions st 0
    match c.closings text name filename o.regions with
    | (reports, some f) => (reports, .error f)
    | (reports, none) => (reports, o.tree.mapError .grammar)

lemma read_of_start {c : Configuration} {source : String} {name filename : Option String}
    {st : Grammar.Stream}
    (hst : Grammar.Stream.start c.dialect (c.preprocessed source) = .ok st) :
    let o := Grammar.readFrom c.extensions st
    let closings := c.closings (c.preprocessed source) name filename o.regions
    c.read source name filename =
      (closings.1, closings.2.elim (o.tree.mapError .grammar) .error) := by
  intro o closings
  unfold read
  dsimp only
  rw [hst]
  dsimp only
  rcases hclosings : c.closings (c.preprocessed source) name filename o.regions
    with ⟨reports, _ | f⟩ <;> simp only [closings, hclosings] <;> rfl

/-- A template that is read has been started, and all its regions have been closed. -/
lemma read_eq_ok {c : Configuration} {source : String} {name filename : Option String}
    {reports : List Report} {tree : Node} (h : c.read source name filename = (reports, .ok tree)) :
    ∃ st, Grammar.Stream.start c.dialect (c.preprocessed source) = .ok st ∧
      (Grammar.readFrom c.extensions st).tree = .ok tree ∧
      c.closings (c.preprocessed source) name filename
        (Grammar.readFrom c.extensions st).regions = (reports, none) := by
  unfold read at h
  dsimp only at h
  split at h
  · cases h
  · next st hst =>
    split at h
    · cases h
    · next rs hclosings =>
      obtain ⟨rfl, htree⟩ := Prod.mk.inj h
      refine ⟨st, hst, ?_, hclosings⟩
      cases ht : (Grammar.readFrom c.extensions st).tree <;> rw [ht] at htree <;> cases htree
      rfl

/-- The outcome of a template that the grammar allows is that of closing its regions. -/
lemma read_of_closings {c : Configuration} {source : String} {name filename : Option String}
    {st : Grammar.Stream} {tree : Node} {reports : List Report} {fault : Option Fault}
    (hst : Grammar.Stream.start c.dialect (c.preprocessed source) = .ok st)
    (htree : (Grammar.readFrom c.extensions st).tree = .ok tree)
    (hclosings : c.closings (c.preprocessed source) name filename
      (Grammar.readFrom c.extensions st).regions = (reports, fault)) :
    c.read source name filename = (reports, fault.elim (.ok tree) .error) := by
  rw [read_of_start hst, hclosings, htree]
  rfl

def lint (source : String) (name filename : Option String) : Except Fault (List Report) :=
  match c.read source name filename with
  | (_, .error f) => .error f
  | (reports, .ok tree) =>
    if c.mode = .template then
      match tokenize c.dialect (c.preprocessed source) with
      | .error f => .error (.lexical f)
      | .ok tokens =>
        (c.treeReport (c.reach none) tree (.ofTokens tokens) name filename).map ([·])
    else .ok reports

end Configuration

namespace Linter

/-- The rule table that a linter has or would make. -/
def ruleTable (l : Linter) : Except ConfigFault RuleTable :=
  match l.table with
  | some t => .ok t
  | none =>
    match l.rules with
    | .table t => .ok t
    | .nothing => .ok .empty
    | .directory path => (RuleTable.ofDirectory l.files path).table

def configuration (l : Linter) : Configuration where
  dialect := l.dialect
  extensions := l.extensions
  replacements := l.replacements
  rules := l.ruleTable
  app := l.app
  mode := l.mode
  raises := l.raises
  reach := l.reach

/-- What is told when the rule table is made. -/
def resolutionLog (l : Linter) : Log :=
  match l.table with
  | some _ => []
  | none =>
    match l.rules with
    | .table _ => []
    | .nothing => [⟨.warning, .extension, "No rules configured for the lint extension"⟩]
    | .directory path => (RuleTable.ofDirectory l.files path).log

/-- Resolving keeps a table that has been made, notes and tells what making one leaves behind, and
changes nothing else. -/
lemma resolve_eq (l : Linter) :
    ∃ events, l.resolve =
      ({ l with
          table := l.ruleTable.toOption
          run := ⟨l.run.session, l.run.events ++ events, l.run.log ++ l.resolutionLog⟩ },
        l.ruleTable) := by
  unfold resolve ruleTable resolutionLog
  cases ht : l.table with
  | some t => exact ⟨[], by simp [Except.toOption, ← ht]⟩
  | none =>
    cases hr : l.rules with
    | table t => exact ⟨[], by simp [Except.toOption, ← hr]⟩
    | nothing => exact ⟨[], by simp [Except.toOption, tell, Run.tell, ← hr]⟩
    | directory path =>
      refine ⟨(RuleTable.ofDirectory l.files path).events, ?_⟩
      cases hb : (RuleTable.ofDirectory l.files path).table <;>
        simp [Except.toOption, hb, ← hr, ← ht]

/-- The linter has gone from one state to another while a template is read, and has added reports:
neither its configuration nor the template nor the open documents have changed. -/
structure Adds (l l' : Linter) (reports : List Report) : Prop where
  configuration : l'.configuration = l.configuration
  reports : l'.reports = l.reports ++ reports
  source : l'.source = l.source
  sourceName : l'.sourceName = l.sourceName
  opened : l'.run.session.opened = l.run.session.opened

variable {l l' l'' : Linter} {a b : List Report}

lemma Adds.refl (l : Linter) : Adds l l [] := ⟨rfl, (List.append_nil _).symm, rfl, rfl, rfl⟩

lemma Adds.trans (h : Adds l l' a) (h' : Adds l' l'' b) : Adds l l'' (a ++ b) where
  configuration := h'.configuration.trans h.configuration
  reports := by rw [h'.reports, h.reports, List.append_assoc]
  source := h'.source.trans h.source
  sourceName := h'.sourceName.trans h.sourceName
  opened := h'.opened.trans h.opened

lemma adds_tell (l : Linter) (records : Log) : Adds l (l.tell records) [] :=
  ⟨rfl, (List.append_nil _).symm, rfl, rfl, rfl⟩

lemma adds_resolve (l : Linter) : Adds l l.resolve.1 [] := by
  obtain ⟨events, h⟩ := resolve_eq l
  rw [h]
  refine ⟨?_, (List.append_nil _).symm, rfl, rfl, rfl⟩
  cases ht : l.ruleTable with
  | ok t =>
    rw [configuration, configuration, ht]
    rfl
  | error f =>
    have hn : l.table = none := by
      cases hl : l.table with
      | none => rfl
      | some t => simp [ruleTable, hl] at ht
    have : (none : Option RuleTable) = l.table := hn.symm
    simp only [Except.toOption, this, configuration]
    rfl

/-! ### Single operations -/

lemma lintTree_eq (l : Linter) (levels : Nat) (root : Node) (index : SourceIndex)
    (name filename : Option String) :
    Adds l (l.lintTree levels root index name filename).1 [] ∧
      (l.lintTree levels root index name filename).2 =
        l.configuration.treeReport levels root index name filename := by
  obtain ⟨events, h⟩ := resolve_eq l
  have hr := adds_resolve l
  rw [h] at hr
  unfold lintTree
  rw [h]
  cases ht : l.ruleTable with
  | error f =>
    rw [ht] at hr
    exact ⟨hr, by simp [Configuration.treeReport, configuration, ht]⟩
  | ok t =>
    rw [ht] at hr
    refine ⟨hr.trans ⟨rfl, (List.append_nil _).symm, rfl, rfl, Lint.tree_opened ..⟩, ?_⟩
    simp only [Configuration.treeReport, configuration, ht]
    exact congrArg _ (Lint.tree_outcome ..)

variable {text : String} {name : Option String}

lemma regionIndex_eq (hs : l.source = some text) (hn : l.sourceName = name) (ordinal : Nat) :
    Adds l (l.regionIndex ordinal name).1 [] ∧
      (l.regionIndex ordinal name).2 =
        match tokenize l.dialect text with
        | .error f => .error (.lexical f)
        | .ok tokens => .ok (.ofTokens (Block.extract tokens ordinal).tokens) := by
  unfold regionIndex
  simp only [hn, hs, if_true]
  cases tokenize l.dialect text with
  | error f => exact ⟨Adds.refl l, rfl⟩
  | ok tokens => exact ⟨adds_tell l _, rfl⟩

lemma lintRegion_eq (hs : l.source = some text) (hn : l.sourceName = name)
    (r : Grammar.Region) (ordinal : Nat) (filename : Option String) :
    match l.configuration.regionReport text r ordinal name filename with
    | .error f => Adds l (l.lintRegion r ordinal name filename).1 [] ∧
        (l.lintRegion r ordinal name filename).2 = some f
    | .ok report => Adds l (l.lintRegion r ordinal name filename).1 [report] ∧
        (l.lintRegion r ordinal name filename).2 =
          if report.failed && l.raises then some (.failed ⟨report, r.line, name, filename⟩)
          else none := by
  obtain ⟨hadd, hout⟩ := regionIndex_eq hs hn ordinal
  have hd : l.configuration.dialect = l.dialect := rfl
  simp only [Configuration.regionReport, hd, lintRegion]
  rcases hi : l.regionIndex ordinal name with ⟨l₁, f | index⟩ <;> rw [hi] at hadd hout
  · cases ht : tokenize l.dialect text with
    | error g =>
      rw [ht] at hout
      cases hout
      exact ⟨hadd, rfl⟩
    | ok tokens => rw [ht] at hout; cases hout
  · cases ht : tokenize l.dialect text with
    | error g => rw [ht] at hout; cases hout
    | ok tokens =>
      rw [ht] at hout
      cases hout
      have hreach : l₁.reach = l.configuration.reach :=
        congrArg Configuration.reach hadd.configuration
      obtain ⟨hadd', hout'⟩ := lintTree_eq l₁ (l₁.reach (some r)) r.root
        (.ofTokens (Block.extract tokens ordinal).tokens) name filename
      rw [hadd.configuration] at hout'
      rcases hr : l₁.lintTree (l₁.reach (some r)) r.root
        (.ofTokens (Block.extract tokens ordinal).tokens) name filename
        with ⟨l₂, f | report⟩ <;> rw [hr] at hadd' hout' <;> rw [hreach] at hout'
      · simp only [hr, ← hout', and_true]
        exact hadd.trans hadd'
      · have hraises : l₂.raises = l.raises :=
          congrArg Configuration.raises (hadd.trans hadd').configuration
        have hlast : Adds l₂ { l₂ with reports := l₂.reports ++ [report] } [report] :=
          ⟨rfl, rfl, rfl, rfl, rfl⟩
        simp only [hr, ← hout']
        exact ⟨(hadd.trans hadd').trans hlast, by rw [hraises]⟩

lemma closeRegion_eq (hs : l.source = some text) (hn : l.sourceName = name)
    (r : Grammar.Region) (filename : Option String) :
    Adds l (l.closeRegion r name filename).1
        (l.configuration.closing text name filename r).1 ∧
      (l.closeRegion r name filename).2 = (l.configuration.closing text name filename r).2 := by
  have ho : Adds l { l with opened := r.opened } [] :=
    ⟨rfl, (List.append_nil _).symm, rfl, rfl, rfl⟩
  have hm : l.configuration.mode = l.mode := rfl
  have hreach : l.configuration.reach = l.reach := rfl
  cases hp : r.purpose with
  | inspect =>
    simp only [closeRegion, Configuration.closing, hp, hreach]
    cases r.root.describe? (l.reach (some r)) with
    | none => exact ⟨ho, rfl⟩
    | some lines => exact ⟨⟨rfl, (List.append_nil _).symm, rfl, rfl, rfl⟩, rfl⟩
  | lint ordinal =>
    simp only [closeRegion, Configuration.closing, hp, hm]
    by_cases hb : l.mode = .block
    · rw [if_pos hb, if_pos hb]
      have h := lintRegion_eq (l := { l with opened := r.opened }) hs hn r ordinal filename
      rw [ho.configuration] at h
      cases hrep : l.configuration.regionReport text r ordinal name filename with
      | error f =>
        rw [hrep] at h
        exact ⟨ho.trans h.1, h.2⟩
      | ok report =>
        rw [hrep] at h
        exact ⟨ho.trans h.1, h.2⟩
    · rw [if_neg hb, if_neg hb]
      exact ⟨ho, rfl⟩

/-! ### Whole templates -/

lemma closeAll_eq (hs : l.source = some text) (hn : l.sourceName = name)
    (filename : Option String) (rs : List Grammar.Region) :
    Adds l (l.closeAll name filename rs).1
        (l.configuration.closings text name filename rs).1 ∧
      (l.closeAll name filename rs).2 = (l.configuration.closings text name filename rs).2 := by
  induction rs generalizing l with
  | nil => exact ⟨Adds.refl l, rfl⟩
  | cons r rs ih =>
    obtain ⟨hadd, hout⟩ := closeRegion_eq hs hn r filename
    rcases hc : l.closeRegion r name filename with ⟨l₁, _ | f⟩ <;> rw [hc] at hadd hout <;>
      rcases ho : l.configuration.closing text name filename r with ⟨a, _ | g⟩ <;>
      rw [ho] at hadd hout <;> simp only [closeAll, hc, Configuration.closings, ho]
    · obtain ⟨hadd', hout'⟩ := ih (hadd.source.trans hs) (hadd.sourceName.trans hn)
      rw [hadd.configuration] at hadd' hout'
      exact ⟨hadd.trans hadd', hout'⟩
    · cases hout
    · cases hout
    · exact ⟨hadd, hout⟩

/-- The linter has gone from one state to another, and neither its configuration nor its open
documents have changed. -/
structure Keeps (l l' : Linter) : Prop where
  configuration : l'.configuration = l.configuration
  opened : l'.run.session.opened = l.run.session.opened

lemma Keeps.trans (h : Keeps l l') (h' : Keeps l' l'') : Keeps l l'' :=
  ⟨h'.configuration.trans h.configuration, h'.opened.trans h.opened⟩

lemma Adds.keeps (h : Adds l l' a) : Keeps l l' := ⟨h.configuration, h.opened⟩

/-- Reading a template adds the reports and has the outcome that the configuration determines. -/
lemma read_eq (l : Linter) (source : String) (name filename : Option String) :
    Keeps l (l.read source name filename).1 ∧
      (l.read source name filename).1.reports =
        l.reports ++ (l.configuration.read source name filename).1 ∧
      (l.read source name filename).2 = (l.configuration.read source name filename).2 := by
  have hk : Keeps l (l.prepare source name) := ⟨rfl, rfl⟩
  have hd : (l.prepare source name).dialect = l.configuration.dialect := rfl
  have hp : (l.prepare source name).preprocessed source = l.configuration.preprocessed source := rfl
  simp only [read, start, hd, hp, Configuration.read]
  cases Grammar.Stream.start l.configuration.dialect (l.configuration.preprocessed source) with
  | error f => exact ⟨hk, (List.append_nil _).symm, rfl⟩
  | ok st =>
    set o := Grammar.readFrom l.configuration.extensions st 0
    have hsource : (l.prepare source name).source =
        some (l.configuration.preprocessed source) := rfl
    have hname : (l.prepare source name).sourceName = name := rfl
    obtain ⟨hadd, hout⟩ := closeAll_eq hsource hname filename o.regions
    rw [hk.configuration] at hadd hout
    have hreg : Grammar.readFrom (l.prepare source name).extensions st
        (l.prepare source name).opened = o := rfl
    have hkeep : Keeps l ((l.prepare source name).closeAll name filename o.regions).1 :=
      hk.trans hadd.keeps
    have hrep := hadd.reports
    simp only [Except.mapError, readFrom, hreg]
    rcases hc : (l.prepare source name).closeAll name filename o.regions with ⟨l₁, _ | f⟩ <;>
      rcases hs : l.configuration.closings (l.configuration.preprocessed source) name filename
        o.regions with ⟨a, _ | g⟩ <;>
      rw [hc] at hkeep hrep hout <;> rw [hs] at hrep hout
    · exact ⟨hkeep.trans ⟨rfl, rfl⟩, hrep, rfl⟩
    · cases hout
    · cases hout
    · cases hout
      exact ⟨hkeep, hrep, rfl⟩

lemma lintWhole_eq (l : Linter) (tree : Node) (source : String) (name filename : Option String) :
    Keeps l (l.lintWhole tree source name filename).1 ∧
      (l.lintWhole tree source name filename).2 =
        match tokenize l.configuration.dialect (l.configuration.preprocessed source) with
        | .error f => .error (.lexical f)
        | .ok tokens => l.configuration.treeReport (l.configuration.reach none) tree
            (.ofTokens tokens) name filename := by
  have hk : Keeps l (l.prepare source name) := ⟨rfl, rfl⟩
  have hp : (l.prepare source name).preprocessed source =
      l.configuration.preprocessed source := rfl
  have hd : (l.prepare source name).dialect = l.configuration.dialect := rfl
  simp only [lintWhole, hp, hd]
  cases tokenize l.configuration.dialect (l.configuration.preprocessed source) with
  | error f => exact ⟨hk, rfl⟩
  | ok tokens =>
    obtain ⟨hadd, hout⟩ := lintTree_eq (l.prepare source name) (l.reach none) tree
      (.ofTokens tokens) name filename
    exact ⟨hk.trans hadd.keeps, hout⟩

/-- **Linting a template has the outcome that the configuration of the linter determines.** It
leaves the configuration and the open documents as they were. -/
theorem lint_eq (l : Linter) (source : String) (name filename : Option String) :
    Keeps l (l.lint source name filename).1 ∧
      (l.lint source name filename).2 = l.configuration.lint source name filename := by
  obtain ⟨hkeep, hrep, hout⟩ := read_eq l source name filename
  simp only [lint, Configuration.lint]
  rcases hr : l.read source name filename with ⟨l₁, f | tree⟩ <;>
    rcases hc : l.configuration.read source name filename with ⟨reports, g | tree'⟩ <;>
    rw [hr] at hkeep hrep hout <;> rw [hc] at hrep hout
  · cases hout
    exact ⟨hkeep, rfl⟩
  · cases hout
  · cases hout
  · cases hout
    -- taking away the reports that were there before is what makes the answer independent of them
    have hnew : l₁.reports.drop l.reports.length = reports := by
      rw [hrep, List.drop_left]
    have hmode : l₁.mode = l.configuration.mode := congrArg Configuration.mode hkeep.configuration
    have hback : Keeps l { l₁ with reports := l.reports } := hkeep.trans ⟨rfl, rfl⟩
    by_cases hm : l.configuration.mode = .template
    · simp only [if_pos (hmode.trans hm), if_pos hm]
      obtain ⟨hkeep', hout'⟩ := lintWhole_eq { l₁ with reports := l.reports } tree source name
        filename
      rw [hback.configuration] at hout'
      rcases hw : ({ l₁ with reports := l.reports } : Linter).lintWhole tree source name filename
        with ⟨l₂, f | report⟩ <;> rw [hw] at hkeep' hout' <;>
        cases ht : tokenize l.configuration.dialect (l.configuration.preprocessed source) <;>
        rw [ht] at hout' <;> simp only <;> refine ⟨hback.trans hkeep', ?_⟩
      · cases hout'
        rfl
      · simp only [← hout', Except.map]
      · cases hout'
      · simp only [← hout', Except.map]
    · have hm' : l₁.mode ≠ .template := hmode ▸ hm
      simp only [if_neg hm', if_neg hm, hnew, and_true]
      exact hback

end Linter

end TemplateLint
