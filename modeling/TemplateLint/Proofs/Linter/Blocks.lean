import Mathlib
import TemplateLint.Proofs.Grammar.Template
import TemplateLint.Proofs.Lexeme.Evaluation
import TemplateLint.Proofs.Linter.Configuration

/-!
The regions that a linter lints are the blocks of the tokens.

A region is closed by the reader, which numbers the lint tags, and its tokens are those of the block
with this number in a second pass over the template. When a template is read in block mode, both are
the same for every region: each gets one report, on exactly its own tokens, and the linter never
tells that something could not be found. Main statement: `linted_of_read`.
-/

namespace TemplateLint.Linter

open Grammar (Region)

/-! ### What is told meanwhile -/

/-- What a linter tells when the template of a region is not there. -/
def unavailable (name : Option String) : Record :=
  ⟨.warning, .extension, "Source of " ++ (firstText name none).getD "template" ++
    " is unavailable, snippets will be empty"⟩

/-- Whether a record says that the template of a region, or one of its tags, was not found. -/
def SaysLost (r : Record) : Prop :=
  (∃ m : Block.Missing, r = m.record) ∨ ∃ name, r = unavailable name

/-- From one state to another one a linter tells nothing of this kind. -/
def Quiet (l l' : Linter) : Prop :=
  ∃ more, l'.run.log = l.run.log ++ more ∧ ∀ r ∈ more, ¬SaysLost r

lemma not_saysLost_of_level {r : Record} (h : r.level ≠ .warning) : ¬SaysLost r := by
  rintro (⟨m, rfl⟩ | ⟨name, rfl⟩) <;> exact h rfl

lemma not_saysLost_of_teller {r : Record} (h : r.teller ≠ .sourceIndex)
    (h' : r.teller ≠ .extension) : ¬SaysLost r := by
  rintro (⟨m, rfl⟩ | ⟨name, rfl⟩)
  · exact h rfl
  · exact h' rfl

/-- That there are no rules is a warning too, but of another text. -/
lemma not_saysLost_noRules :
    ¬SaysLost ⟨.warning, .extension, "No rules configured for the lint extension"⟩ := by
  rintro (⟨m, h⟩ | ⟨name, h⟩)
  · cases h
  · have hm := congrArg (fun r : Record => r.message.toList.head?) h
    simp [unavailable] at hm

variable {l l' l'' : Linter} {a : List Report} {text : String} {name : Option String}
  {tokens : List Token}

lemma Quiet.refl (l : Linter) : Quiet l l := ⟨[], (List.append_nil _).symm, by simp⟩

lemma Quiet.trans (h : Quiet l l') (h' : Quiet l' l'') : Quiet l l'' := by
  obtain ⟨more, hlog, hmore⟩ := h
  obtain ⟨more', hlog', hmore'⟩ := h'
  refine ⟨more ++ more', by rw [hlog', hlog, List.append_assoc], fun r hr => ?_⟩
  rcases List.mem_append.1 hr with hr | hr
  · exact hmore r hr
  · exact hmore' r hr

lemma quiet_of_log (h : l'.run.log = l.run.log) : Quiet l l' :=
  ⟨[], by rw [h, List.append_nil], by simp⟩

lemma quiet_resolve (l : Linter) : Quiet l l.resolve.1 := by
  obtain ⟨events, h⟩ := resolve_eq l
  rw [h]
  refine ⟨l.resolutionLog, rfl, fun r hr => ?_⟩
  unfold resolutionLog at hr
  split at hr
  · cases hr
  · split at hr
    · cases hr
    · rw [List.mem_singleton.1 hr]
      exact not_saysLost_noRules
    · next path =>
      unfold RuleTable.ofDirectory FileTree.loadRules at hr
      split at hr
      · next hload =>
        split at hload <;> cases hload
        cases hr
      · next hload =>
        split at hload <;> cases hload
        rw [List.mem_singleton.1 hr]
        exact not_saysLost_of_level (by simp)

lemma not_saysLost_of_mem_treeLog {w : View} {tr : Walk.Trace} {r : Record}
    (h : r ∈ Lint.treeLog w tr) : ¬SaysLost r := by
  refine not_saysLost_of_level ?_
  simp only [Lint.treeLog, Run.logOf, Lint.walkedLog, List.mem_append, List.mem_cons,
    List.mem_map] at h
  rcases h with (rfl | ⟨e, -, rfl⟩) | h
  · simp
  · simp [Run.recorded]
  · split at h
    · cases h
    · rw [List.mem_singleton.1 h]
      simp

lemma not_saysLost_of_mem_emit {report : Report} {r : Record} (h : r ∈ report.emit) :
    ¬SaysLost r := by
  have hteller : r.teller = .reporter := by
    have htell : ∀ level ds, r ∈ Report.tell level ds → r.teller = .reporter := by
      intro level ds hr
      obtain ⟨d, -, rfl⟩ := List.mem_map.1 hr
      rfl
    rw [Report.emit, List.mem_append, List.mem_append] at h
    rcases h with (h | h) | h
    · exact htell _ _ h
    · split at h
      · exact htell _ _ h
      · exact htell _ _ h
      · cases h
    · rw [List.mem_singleton.1 h]
  exact not_saysLost_of_teller (by simp [hteller]) (by simp [hteller])

/-- What is told about a tree that is linted comes from the walk and from the report. -/
lemma quiet_tree (t : RuleTable) (levels : Nat) (root : Node) (index : SourceIndex)
    (filename : Option String) (l : Linter) :
    Quiet l { l with run := (Lint.tree t levels root index filename l.app l.run).1 } := by
  rw [Lint.tree_eq]
  cases (Lint.traceOf t levels (Lint.viewOf root index filename l.app) root).fault with
  | some f => exact ⟨_, rfl, fun r hr => not_saysLost_of_mem_treeLog hr⟩
  | none =>
    refine ⟨_, List.append_assoc _ _ _, fun r hr => ?_⟩
    rcases List.mem_append.1 hr with hr | hr
    · exact not_saysLost_of_mem_treeLog hr
    · exact not_saysLost_of_mem_emit hr

lemma quiet_lintTree (l : Linter) (levels : Nat) (root : Node) (index : SourceIndex)
    (name filename : Option String) : Quiet l (l.lintTree levels root index name filename).1 := by
  have hresolve := quiet_resolve l
  unfold lintTree
  rcases hr : l.resolve with ⟨l₁, f | t⟩ <;> rw [hr] at hresolve
  · exact hresolve
  · exact hresolve.trans (quiet_tree t levels root index _ l₁)

/-- The block with a number is found. -/
def Found (tokens : List Token) (rs : List Region) : Prop :=
  ∀ r ∈ rs, ∀ k, r.purpose = .lint k → (Block.extract tokens k).missing = none

lemma quiet_lintRegion (hs : l.source = some text) (hn : l.sourceName = name)
    (ht : tokenize l.dialect text = .ok tokens) {ordinal : Nat}
    (hfound : (Block.extract tokens ordinal).missing = none) (r : Region)
    (filename : Option String) : Quiet l (l.lintRegion r ordinal name filename).1 := by
  have hindex : l.regionIndex ordinal name =
      (l.tell [], .ok (.ofTokens (Block.extract tokens ordinal).tokens)) := by
    simp only [regionIndex, hn, hs, if_true, ht, Block.Extraction.log, hfound]
    rfl
  have hstart : Quiet l (l.tell []) := quiet_of_log (List.append_nil _)
  have htree := quiet_lintTree (l.tell []) (l.reach (some r)) r.root
    (.ofTokens (Block.extract tokens ordinal).tokens) name filename
  have hreach : (l.tell []).reach = l.reach := rfl
  unfold lintRegion
  rw [hindex]
  dsimp only
  rw [hreach]
  rcases hl : (l.tell []).lintTree (l.reach (some r)) r.root
    (.ofTokens (Block.extract tokens ordinal).tokens) name filename
    with ⟨l₁, f | report⟩ <;> rw [hl] at htree
  · exact hstart.trans htree
  · exact hstart.trans (htree.trans (quiet_of_log rfl))

lemma quiet_closeRegion (hs : l.source = some text) (hn : l.sourceName = name)
    (ht : tokenize l.dialect text = .ok tokens) {r : Region} (hfound : Found tokens [r])
    (filename : Option String) : Quiet l (l.closeRegion r name filename).1 := by
  have ho : Quiet l { l with opened := r.opened } := quiet_of_log rfl
  unfold closeRegion
  dsimp only
  split
  · next k hk =>
    split
    · exact ho.trans (quiet_lintRegion (l := { l with opened := r.opened }) hs hn ht
        (hfound r (.head _) k hk) r filename)
    · exact ho
  · split
    · exact ho
    · refine ⟨_, rfl, fun record hr => not_saysLost_of_level ?_⟩
      obtain ⟨line, -, rfl⟩ := List.mem_map.1 hr
      simp

lemma quiet_closeAll {rs : List Region} (hs : l.source = some text) (hn : l.sourceName = name)
    (ht : tokenize l.dialect text = .ok tokens) (hfound : Found tokens rs)
    (filename : Option String) : Quiet l (l.closeAll name filename rs).1 := by
  induction rs generalizing l with
  | nil => exact .refl l
  | cons r rs ih =>
    have hfirst : Found tokens [r] := fun r' hr' => hfound r' (by simp_all)
    have hrest : Found tokens rs := fun r' hr' => hfound r' (.tail _ hr')
    have hquiet := quiet_closeRegion hs hn ht hfirst filename
    obtain ⟨hadd, -⟩ := closeRegion_eq hs hn r filename
    unfold closeAll
    rcases hc : l.closeRegion r name filename with ⟨l₁, _ | f⟩ <;> rw [hc] at hquiet hadd
    · have hd : l₁.dialect = l.dialect := congrArg Configuration.dialect hadd.configuration
      refine hquiet.trans (ih (hadd.source.trans hs) (hadd.sourceName.trans hn) ?_ hrest)
      rw [hd, ht]
    · exact hquiet

/-! ### Reports -/

/-- The outcome of linting a region on its own tokens. -/
def ReportOf (l : Linter) (tokens : List Token) (name filename : Option String) (r : Region)
    (report : Report) : Prop :=
  ∃ t, l.resolve.2 = .ok t ∧ ∀ run, (Lint.tree t (l.reach (some r)) r.root
    (.ofTokens ((tokens.drop r.first).take (r.stop - r.first))) (firstText filename name) l.app
    run).2 = .ok report

lemma reportOf_of_treeReport {filename : Option String} {r : Region} {report : Report}
    (h : l.configuration.treeReport (l.reach (some r)) r.root
      (.ofTokens ((tokens.drop r.first).take (r.stop - r.first))) name filename = .ok report) :
    ReportOf l tokens name filename r report := by
  obtain ⟨events, hresolve⟩ := resolve_eq l
  unfold Configuration.treeReport at h
  split at h
  · cases h
  · next t ht =>
    refine ⟨t, by rw [hresolve]; exact ht, fun run => ?_⟩
    rw [Lint.tree_outcome]
    cases hout : Lint.outcomeOf t (l.reach (some r)) (Lint.viewOf r.root
      (.ofTokens ((tokens.drop r.first).take (r.stop - r.first))) (firstText filename name)
      l.configuration.app) r.root <;> rw [hout] at h <;> cases h
    exact hout

section

variable {filename : Option String} {rs : List Region}

/-- In block mode a region that is linted without a fault has its report. -/
lemma forall₂_closing {r : Region} (hm : l.mode = .block)
    (ht : tokenize l.dialect text = .ok tokens)
    (hextract : ∀ k, r.purpose = .lint k → (Block.extract tokens k).tokens =
      (tokens.drop r.first).take (r.stop - r.first))
    (h : l.configuration.closing text name filename r = (a, none)) :
    List.Forall₂ (ReportOf l tokens name filename) (Grammar.linted [r]) a := by
  have hmode : l.configuration.mode = .block := hm
  have hdialect : l.configuration.dialect = l.dialect := rfl
  unfold Configuration.closing at h
  split at h
  · next hp =>
    rw [Grammar.linted_cons_of_inspect hp]
    split at h <;> cases h
    exact .nil
  · next k hp =>
    rw [if_pos hmode, Configuration.regionReport, hdialect, ht] at h
    dsimp only at h
    rw [hextract k hp] at h
    rw [Grammar.linted_cons_of_lint hp]
    split at h
    · cases h
    · next report hreport =>
      obtain ⟨rfl, -⟩ := Prod.mk.inj h
      exact .cons (reportOf_of_treeReport hreport) .nil

/-- In block mode every linted region has its report, in the order in which they are closed. -/
lemma forall₂_closings (hm : l.mode = .block) (ht : tokenize l.dialect text = .ok tokens)
    (hextract : ∀ r ∈ rs, ∀ k, r.purpose = .lint k → (Block.extract tokens k).tokens =
      (tokens.drop r.first).take (r.stop - r.first))
    (h : (l.configuration.closings text name filename rs).2 = none) :
    List.Forall₂ (ReportOf l tokens name filename) (Grammar.linted rs)
      (l.configuration.closings text name filename rs).1 := by
  induction rs with
  | nil => exact .nil
  | cons r rs ih =>
    have hsplit : Grammar.linted (r :: rs) = Grammar.linted [r] ++ Grammar.linted rs := by
      rw [Grammar.linted, Grammar.linted, Grammar.linted, ← List.filter_append]
      rfl
    unfold Configuration.closings at h ⊢
    rcases hc : l.configuration.closing text name filename r with ⟨b, _ | f⟩ <;> rw [hc] at h
    · rw [hsplit]
      exact List.rel_append (forall₂_closing hm ht (hextract r (.head _)) hc)
        (ih (fun r' hr' => hextract r' (.tail _ hr')) h)
    · cases h

/-- There are as many linted regions as numbers. -/
lemma length_linted (rs : List Region) :
    (Grammar.linted rs).length = (rs.filterMap Region.ordinal?).length := by
  induction rs with
  | nil => rfl
  | cons r rs ih =>
    unfold Grammar.linted at ih ⊢
    cases hr : r.ordinal? with
    | none => rw [List.filter_cons_of_neg (by simp [hr]), List.filterMap_cons_none hr, ih]
    | some k =>
      rw [List.filter_cons_of_pos (by simp [hr]), List.filterMap_cons_some hr, List.length_cons,
        List.length_cons, ih]

end

/-! ### Templates -/

/-- A template that is read has been prepared, and every region of it has been closed. -/
lemma read_eq_ok {source : String} {filename : Option String} {tree : Node}
    (h : l.read source name filename = (l', .ok tree)) : ∃ st l₁,
      Grammar.Stream.start l.dialect (l.preprocessed source) = .ok st ∧
      (Grammar.readFrom l.extensions st).tree = .ok tree ∧
      (l.prepare source name).closeAll name filename (Grammar.readFrom l.extensions st).regions =
        (l₁, none) ∧
      l' = { l₁ with opened := (Grammar.readFrom l.extensions st).opened } := by
  have hstart : l.start source name = (l.prepare source name,
    (Grammar.Stream.start l.dialect (l.preprocessed source)).mapError .grammar) := rfl
  rw [read, hstart] at h
  cases hst : Grammar.Stream.start l.dialect (l.preprocessed source) with
  | error f =>
    rw [hst] at h
    cases h
  | ok st =>
    rw [hst] at h
    have hfrom : (l.prepare source name).readFrom st name filename = (l', .ok tree) := h
    have ho : Grammar.readFrom (l.prepare source name).extensions st
      (l.prepare source name).opened = Grammar.readFrom l.extensions st := rfl
    unfold readFrom at hfrom
    rw [ho] at hfrom
    dsimp only at hfrom
    split at hfrom
    · cases hfrom
    · next l₁ hclose =>
      refine ⟨st, l₁, rfl, ?_, hclose, ?_⟩
      · cases ht : (Grammar.readFrom l.extensions st).tree <;> rw [ht] at hfrom <;> cases hfrom
        rfl
      · exact (Prod.mk.inj hfrom).1.symm

/-- A template with the given tokens and regions has been linted block by block. -/
structure Linted (l l' : Linter) (name filename : Option String) (tokens : List Token)
    (rs : List Region) : Prop where
  /-- The regions are the blocks of the tokens: the number, the first token and the last one of each
  are those of a lint tag. -/
  blocks : Grammar.Matches rs tokens
  /-- There is one report more for every lint tag, in the order of the closing tags; it is on the
  region's own tokens. -/
  reports : ∃ reports, l'.reports = l.reports ++ reports ∧
    reports.length = Block.openings "lint" tokens ∧
    List.Forall₂ (ReportOf l tokens name filename) (Grammar.linted rs) reports
  /-- The numbers start at zero, whatever has been read before. -/
  opened : l'.opened = Block.openings "lint" tokens
  /-- Nothing is told to be missing. -/
  quiet : Quiet l l'

/-- **The regions that are linted while a template is read are the blocks of its tokens.** -/
theorem linted_of_read {source : String} {filename : Option String} {tree : Node}
    (hm : l.mode = .block) (h : l.read source name filename = (l', .ok tree)) :
    ∃ st tokens, Grammar.Stream.start l.dialect (l.preprocessed source) = .ok st ∧
      tokenize l.dialect (l.preprocessed source) = .ok tokens ∧
      Linted l l' name filename tokens (Grammar.readFrom l.extensions st).regions := by
  obtain ⟨st, l₁, hst, htree, hclose, rfl⟩ := read_eq_ok h
  obtain ⟨tokens, htokens, hblocks, hopened⟩ := Grammar.matches_readFrom hst htree
  have hsource : (l.prepare source name).source = some (l.preprocessed source) := rfl
  have hfound : Found tokens (Grammar.readFrom l.extensions st).regions :=
    fun r hr k hk => by rw [hblocks.extract r hr k hk]
  have hname : (l.prepare source name).sourceName = name := rfl
  have hconfiguration : (l.prepare source name).configuration = l.configuration := rfl
  have hquiet := quiet_closeAll hsource hname htokens hfound filename
  obtain ⟨hadd, hout⟩ := closeAll_eq hsource hname filename
    (Grammar.readFrom l.extensions st).regions
  rw [hclose] at hquiet hadd hout
  rw [hconfiguration] at hadd hout
  have hforall := forall₂_closings hm htokens
    (fun r hr k hk => by rw [hblocks.extract r hr k hk]) hout.symm
  refine ⟨st, tokens, hst, htokens, hblocks, ⟨_, hadd.reports, ?_, hforall⟩, hopened, ?_⟩
  · rw [← hforall.length_eq, length_linted, hblocks.ordinals.length_eq, List.length_range]
  · have hstart : Quiet l (l.prepare source name) := quiet_of_log rfl
    exact hstart.trans (hquiet.trans (quiet_of_log rfl))

/-! ### A region inside of another one -/

def nestedSource : String := "{% lint %}a{% lint %}{% endlint %}{% endlint %}"

/-- The inner region is closed first. -/
def nestedRegions : List Region :=
  let text := Grammar.nodeAt 1 .output [.nodes [Grammar.nodeAt 1 .templateData [.text "a"]]]
  [⟨.lint 1, 1, [], 11, 11, 2⟩, ⟨.lint 0, 1, [text], 5, 16, 2⟩]

def nestedStream : Grammar.Stream where
  current := ⟨1, .blockBegin, 0⟩
  ahead := [⟨1, .name "lint", 2⟩, ⟨1, .blockEnd, 4⟩, ⟨1, .data "a", 5⟩, ⟨1, .blockBegin, 6⟩,
    ⟨1, .name "lint", 8⟩, ⟨1, .blockEnd, 10⟩, ⟨1, .blockBegin, 11⟩, ⟨1, .name "endlint", 13⟩,
    ⟨1, .blockEnd, 15⟩, ⟨1, .blockBegin, 16⟩, ⟨1, .name "endlint", 18⟩, ⟨1, .blockEnd, 20⟩]
  fault := none
  bound := 15

lemma start_nestedSource : Grammar.Stream.start {} nestedSource = .ok nestedStream := by
  rw [Grammar.Stream.start, Lexer.lex_default]
  decide +kernel

lemma grammar_nestedSource : Grammar.read {} [.lint, .inspect] nestedSource =
    Grammar.readFrom [.lint, .inspect] nestedStream := by
  rw [Grammar.read, start_nestedSource]

lemma regions_nestedStream :
    (Grammar.readFrom [.lint, .inspect] nestedStream).regions = nestedRegions := by cbv

lemma exists_tree_nestedStream : ∃ tree,
    (Grammar.readFrom [.lint, .inspect] nestedStream).tree = .ok tree := by
  have hok : (Grammar.readFrom [.lint, .inspect] nestedStream).tree.isOk := by decide +kernel
  exact exists_eq_ok hok

/-- Walking the two regions without rules goes well. -/
lemma isOk_nestedRegions :
    ∀ r ∈ nestedRegions, ∀ w, (Lint.outcomeOf .empty usualLevels w r.root).isOk := by
  intro r hr w
  rcases List.mem_pair.1 hr with rfl | rfl
  · rfl
  · rfl

/-- A linter that can walk the two regions reads the nest. What their tokens are plays no part. -/
lemma read_nestedSource {l : Linter} {t : RuleTable} (hraises : l.raises = false)
    (hrules : l.ruleTable = .ok t) (hdialect : l.dialect = {})
    (hextensions : l.extensions = [.lint, .inspect]) (hreplacements : l.replacements = [])
    (hok : ∀ r ∈ nestedRegions, ∀ w, (Lint.outcomeOf t (l.reach (some r)) w r.root).isOk)
    (name filename : Option String) : ∃ n, (l.read nestedSource name filename).2 = .ok n := by
  set c := l.configuration
  have htext : c.preprocessed nestedSource = nestedSource := by
    simp [c, Configuration.preprocessed, configuration, hreplacements]
  have hstart : Grammar.Stream.start c.dialect (c.preprocessed nestedSource) =
      .ok nestedStream := by
    rw [htext, show c.dialect = {} from hdialect, start_nestedSource]
  have hread : Grammar.readFrom [.lint, .inspect] nestedStream =
      Grammar.readFrom c.extensions nestedStream := by
    rw [show c.extensions = [.lint, .inspect] from hextensions]
  have hregions := regions_nestedStream
  obtain ⟨tree, htree⟩ := exists_tree_nestedStream
  rw [hread] at hregions htree
  obtain ⟨tokens, htokens, -⟩ := Grammar.matches_readFrom hstart htree
  have hfault : (c.closings (c.preprocessed nestedSource) name filename nestedRegions).2 =
      none := by
    by_contra hf
    obtain ⟨f, hf⟩ := Option.ne_none_iff_exists'.1 hf
    obtain ⟨r, hr, ⟨-, hinspect, -⟩ | ⟨index, g, -, hg⟩⟩ :=
      Configuration.closings_fault hraises hrules htokens hf
    · rcases List.mem_pair.1 hr with rfl | rfl <;> cases hinspect
    have hwalk := hok r hr (Lint.viewOf r.root index (firstText filename name) c.app)
    rw [show l.reach = c.reach from rfl, hg] at hwalk
    cases hwalk
  refine ⟨tree, ?_⟩
  rw [(read_eq l nestedSource name filename).2.2, Configuration.read_of_start hstart, hregions,
    hfault, htree]
  rfl

/-- Both blocks of a nest are linted. -/
theorem linted_of_read_nested :
    ∃ l' tree, ({ raises := false } : Linter).read nestedSource none none = (l', .ok tree) ∧
      ∃ st tokens, Grammar.Stream.start {} nestedSource = .ok st ∧
        tokenize {} nestedSource = .ok tokens ∧
        Linted { raises := false } l' none none tokens
          (Grammar.readFrom [.lint, .inspect] st).regions := by
  obtain ⟨tree, htree⟩ := read_nestedSource (l := { raises := false }) rfl rfl rfl rfl rfl
    isOk_nestedRegions none none
  have h : ({ raises := false } : Linter).read nestedSource none none = (_, .ok tree) :=
    Prod.ext rfl htree
  exact ⟨_, tree, h, linted_of_read rfl h⟩

end TemplateLint.Linter
