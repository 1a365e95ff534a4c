import TemplateLint.Proofs.FileTree.Find
import TemplateLint.Proofs.Linter.Passes
import TemplateLint.Proofs.Linter.Raising

/-!
The rule table of a linter is resolved once.

Between templates everything about a linter can be changed, also the source of its rules. As long as
no pass has got a table, each pass resolves the source that there is at its time; the first table
that comes of this is used in all passes from then on, so no later change of the source makes a
difference. Main statement: `resolved_once`.
-/

namespace TemplateLint.Linter

/-! ### Steps -/

/-- What can be done with a linter. -/
inductive Step where
  | rules (s : RuleSource)
  | files (t : FileTree)
  | app (a : Option String)
  | mode (m : Mode)
  | raises (b : Bool)
  | reach (r : Reach)
  | dialect (d : Dialect)
  | replacements (rs : List (String × String))
  /-- The reports are taken away. -/
  | forget
  /-- A template is prepared and not yet read. -/
  | start (source : String) (name : Option String)
  /-- A template is read from a terminal on, whatever has been prepared since. -/
  | readFrom (st : Grammar.Stream) (name filename : Option String)
  | read (source : String) (name filename : Option String)

namespace Step

/-- What a step leads to, and what is answered if something is. -/
def take : Step → Linter → Linter × Option (Except Fault Node)
  | rules s, l => ({ l with rules := s }, none)
  | files t, l => ({ l with files := t }, none)
  | app a, l => ({ l with app := a }, none)
  | mode m, l => ({ l with mode := m }, none)
  | raises b, l => ({ l with raises := b }, none)
  | reach r, l => ({ l with reach := r }, none)
  | dialect d, l => ({ l with dialect := d }, none)
  | replacements rs, l => ({ l with replacements := rs }, none)
  | forget, l => ({ l with reports := [] }, none)
  | start source name, l =>
    match l.start source name with
    | (l, .error f) => (l, some (.error f))
    | (l, .ok _) => (l, none)
  | readFrom st name filename, l =>
    let (l, answer) := l.readFrom st name filename
    (l, some answer)
  | read source name filename, l =>
    let (l, answer) := l.read source name filename
    (l, some answer)

def passes : Step → Linter → List Pass
  | readFrom st name filename, l => l.passesFrom name filename st
  | read source name filename, l =>
    match l.start source name with
    | (_, .error _) => []
    | (l, .ok st) => l.passesFrom name filename st
  | _, _ => []

/-- The step is not about where the rules come from. -/
def keepsRules : Step → Bool
  | rules _ | files _ => false
  | _ => true

/-- The reports that are not taken away. -/
def kept : Step → Linter → List Report
  | forget, _ => []
  | _, l => l.reports

end Step

/-- The linter after steps. -/
def after : List Step → Linter → Linter
  | [], l => l
  | x :: xs, l => after xs (x.take l).1

def answers : List Step → Linter → List (Except Fault Node)
  | [], _ => []
  | x :: xs, l => (x.take l).2.toList ++ answers xs (x.take l).1

def passes : List Step → Linter → List Pass
  | [], _ => []
  | x :: xs, l => x.passes l ++ passes xs (x.take l).1

/-! ### The table along a run -/

variable {l : Linter}

/-- A template is prepared before its first terminal is found. -/
lemma start_eq (l : Linter) (source : String) (name : Option String) : l.start source name =
    (l.prepare source name,
      (Grammar.Stream.start l.dialect (l.preprocessed source)).mapError .grammar) :=
  rfl

lemma lints_read (l : Linter) (source : String) (name filename : Option String) :
    Lints l (l.read source name filename).1 ((Step.read source name filename).passes l) := by
  have hprepare : Lints l (l.prepare source name) [] := lints_nil rfl rfl rfl rfl
  simp only [read, Step.passes, start_eq]
  cases (Grammar.Stream.start l.dialect (l.preprocessed source)).mapError Fault.grammar with
  | error f => exact hprepare
  | ok st => exact hprepare.trans (lints_readFrom name filename (l.prepare source name) st)

lemma cached_take (x : Step) (l : Linter) : Cached l.table (x.passes l) (x.take l).1.table := by
  cases x with
  | start source name =>
    simp only [Step.take, start_eq]
    cases (Grammar.Stream.start l.dialect (l.preprocessed source)).mapError Fault.grammar with
    | error f => exact .nil _
    | ok st => exact .nil _
  | readFrom st name filename => exact (lints_readFrom name filename l st).cached
  | read source name filename => exact (lints_read l source name filename).cached
  | _ => exact .nil _

/-- The table along a run is the first one that a pass could have made. -/
lemma cached_after (xs : List Step) (l : Linter) :
    Cached l.table (passes xs l) (after xs l).table := by
  induction xs generalizing l with
  | nil => exact .nil _
  | cons x xs ih => exact (cached_take x l).append (ih _)

/-! ### Where the rules come from -/

/-- The linter with other sources of rules. -/
def withRules (l : Linter) (s : RuleSource) (t : FileTree) : Linter :=
  { l with rules := s, files := t }

/-- Once there is a table, an operation does the same wherever the rules come from. -/
def Ignores {α : Type} (op : Linter → Linter × α) : Prop :=
  ∀ (l : Linter) (s : RuleSource) (t : FileTree), l.table.isSome →
    (op l).1.table = l.table ∧ op (l.withRules s t) = ((op l).1.withRules s t, (op l).2)

lemma ignores_regionIndex (ordinal : Nat) (name : Option String) :
    Ignores fun l => l.regionIndex ordinal name := by
  intro l s t _
  have hsource : (l.withRules s t).source = l.source := rfl
  have hname : (l.withRules s t).sourceName = l.sourceName := rfl
  have hdialect : (l.withRules s t).dialect = l.dialect := rfl
  simp only [regionIndex, hsource, hname, hdialect]
  cases (if l.sourceName = name then l.source else none) with
  | none => exact ⟨rfl, rfl⟩
  | some source =>
    dsimp only
    cases tokenize l.dialect source with
    | error f => exact ⟨rfl, rfl⟩
    | ok tokens => exact ⟨rfl, rfl⟩

lemma ignores_lintTree (levels : Nat) (root : Node) (index : SourceIndex)
    (name filename : Option String) :
    Ignores fun l => l.lintTree levels root index name filename := by
  intro l s t ht
  obtain ⟨table, ht⟩ := Option.isSome_iff_exists.1 ht
  have hresolve : ∀ m : Linter, m.table = some table → m.resolve = (m, .ok table) :=
    fun m hm => by rw [resolve, hm]
  have ht' : (l.withRules s t).table = some table := ht
  simp only [lintTree, hresolve l ht, hresolve _ ht', true_and]
  rfl

lemma ignores_lintRegion (r : Grammar.Region) (ordinal : Nat) (name filename : Option String) :
    Ignores fun l => l.lintRegion r ordinal name filename := by
  intro l s t ht
  obtain ⟨htable, hindex⟩ := ignores_regionIndex ordinal name l s t ht
  rcases hi : l.regionIndex ordinal name with ⟨l₁, f | index⟩ <;>
    simp only [hi] at htable hindex
  · simpa only [lintRegion, hi, hindex, and_true] using htable
  · obtain ⟨htable', htree⟩ :=
      ignores_lintTree (l₁.reach (some r)) r.root index name filename l₁ s t (htable ▸ ht)
    have hreach : (l₁.withRules s t).reach = l₁.reach := rfl
    rcases hl : l₁.lintTree (l₁.reach (some r)) r.root index name filename
      with ⟨l₂, f | report⟩ <;> simp only [hl] at htable' htree
    · simpa only [lintRegion, hi, hindex, hreach, hl, htree, and_true] using htable'.trans htable
    · simp only [lintRegion, hi, hindex, hreach, hl, htree]
      exact ⟨htable'.trans htable, rfl⟩

lemma ignores_closeRegion (r : Grammar.Region) (name filename : Option String) :
    Ignores fun l => l.closeRegion r name filename := by
  intro l s t ht
  have hreach : (l.withRules s t).reach = l.reach := rfl
  simp only [closeRegion, hreach]
  cases r.purpose with
  | inspect =>
    cases r.root.describe? (l.reach (some r)) with
    | none => exact ⟨rfl, rfl⟩
    | some lines => exact ⟨rfl, rfl⟩
  | lint ordinal =>
    dsimp only
    by_cases hm : l.mode = .block
    · have hm' : (l.withRules s t).mode = .block := hm
      rw [if_pos hm, if_pos hm']
      exact ignores_lintRegion r ordinal name filename { l with opened := r.opened } s t ht
    · have hm' : (l.withRules s t).mode ≠ .block := hm
      rw [if_neg hm, if_neg hm']
      exact ⟨rfl, rfl⟩

lemma ignores_closeAll (rs : List Grammar.Region) (name filename : Option String) :
    Ignores fun l => l.closeAll name filename rs := by
  induction rs with
  | nil => exact fun l s t _ => ⟨rfl, rfl⟩
  | cons r rs ih =>
    intro l s t ht
    obtain ⟨htable, hregion⟩ := ignores_closeRegion r name filename l s t ht
    rcases hc : l.closeRegion r name filename with ⟨l₁, _ | f⟩ <;>
      simp only [hc] at htable hregion
    · obtain ⟨htable', hrest⟩ := ih l₁ s t (htable ▸ ht)
      simp only [closeAll, hc, hregion]
      exact ⟨htable'.trans htable, hrest⟩
    · simpa only [closeAll, hc, hregion, and_true] using htable

lemma ignores_readFrom (st : Grammar.Stream) (name filename : Option String) :
    Ignores fun l => l.readFrom st name filename := by
  intro l s t ht
  have ho : Grammar.readFrom (l.withRules s t).extensions st (l.withRules s t).opened =
    Grammar.readFrom l.extensions st l.opened := rfl
  obtain ⟨htable, hclose⟩ := ignores_closeAll
    (Grammar.readFrom l.extensions st l.opened).regions name filename l s t ht
  rcases hc : l.closeAll name filename (Grammar.readFrom l.extensions st l.opened).regions with
    ⟨l₁, _ | f⟩ <;> simp only [hc] at htable hclose
  · simp only [readFrom, ho, hc, hclose]
    exact ⟨htable, rfl⟩
  · simpa only [readFrom, ho, hc, hclose, and_true] using htable

/-- A step that is not about the sources does the same for all of them. -/
lemma ignores_take {x : Step} (hx : x.keepsRules) : Ignores x.take := by
  intro l s t ht
  have hstart : ∀ source name, (l.withRules s t).start source name =
    ((l.prepare source name).withRules s t,
      (Grammar.Stream.start l.dialect (l.preprocessed source)).mapError .grammar) :=
      fun _ _ => rfl
  cases x with
  | rules s => cases hx
  | files t => cases hx
  | start source name =>
    simp only [Step.take, hstart, start_eq l]
    cases (Grammar.Stream.start l.dialect (l.preprocessed source)).mapError Fault.grammar with
    | error f => exact ⟨rfl, rfl⟩
    | ok st => exact ⟨rfl, rfl⟩
  | readFrom st name filename =>
    obtain ⟨htable, hread⟩ := ignores_readFrom st name filename l s t ht
    exact ⟨htable, by simp only [Step.take, hread]⟩
  | read source name filename =>
    simp only [Step.take, read, hstart, start_eq l]
    cases (Grammar.Stream.start l.dialect (l.preprocessed source)).mapError Fault.grammar with
    | error f => exact ⟨rfl, rfl⟩
    | ok st =>
      obtain ⟨htable, hread⟩ := ignores_readFrom st name filename (l.prepare source name) s t ht
      exact ⟨htable, by simp only [hread]⟩
  | _ => exact ⟨rfl, rfl⟩

/-- Once there is a table, steps that are about the sources can be left out. The induction is on the
steps, for any sources that there are in between. -/
lemma after_withRules (ys : List Step) {l : Linter} (s : RuleSource) (t : FileTree)
    (hl : l.table.isSome) : ∃ s' t',
      after ys (l.withRules s t) = (after (ys.filter Step.keepsRules) l).withRules s' t' ∧
        answers ys (l.withRules s t) = answers (ys.filter Step.keepsRules) l := by
  induction ys generalizing l s t with
  | nil => exact ⟨s, t, rfl, rfl⟩
  | cons x ys ih =>
    cases hx : x.keepsRules with
    | true =>
      obtain ⟨htable, htake⟩ := ignores_take hx l s t hl
      obtain ⟨s', t', hafter, hanswers⟩ := ih s t (l := (x.take l).1) (htable ▸ hl)
      rw [List.filter_cons_of_pos hx]
      refine ⟨s', t', ?_, ?_⟩
      · rw [after, htake, hafter]
        rfl
      · rw [answers, htake, hanswers]
        rfl
    | false =>
      rw [List.filter_cons_of_neg (by simp [hx])]
      cases x with
      | rules s₁ => exact ih s₁ t hl
      | files t₁ => exact ih s t₁ hl
      | _ => cases hx

/-! ### Runs -/

/-- What the passes of a step are for. -/
structure Step.Accounts (x : Step) (l : Linter) : Prop where
  /-- Every pass resolves the source that the linter has in this step. -/
  own : ∀ p ∈ x.passes l, p.linter.rules = l.rules ∧ p.linter.files = l.files
  /-- What comes of a pass is what comes of the tree under the table that it uses. -/
  outcome : ∀ p ∈ x.passes l, p.outcome =
    match p.used with
    | .error f => .error (.rules f)
    | .ok t => (Lint.outcomeOf t p.levels (Lint.viewOf p.root p.index
        (firstText p.filename p.name) p.linter.app) p.root).mapError .walk
  /-- The reports that are added are those of the passes. -/
  reports : (x.take l).1.reports = x.kept l ++ reportsOf (x.passes l)
  /-- A pass without a report ends the step. -/
  fault : ∀ p ∈ x.passes l, ∀ f, p.outcome = .error f → (x.take l).2 = some (.error f)

lemma accounts (x : Step) (l : Linter) : x.Accounts l := by
  have hnone : x.passes l = [] → (x.take l).1.reports = x.kept l → x.Accounts l := by
    intro hpasses hreports
    refine ⟨?_, ?_, ?_, ?_⟩ <;> rw [hpasses]
    · exact fun p hp => by cases hp
    · exact fun p hp => by cases hp
    · rw [hreports, reportsOf, List.filterMap_nil, List.append_nil]
    · exact fun p hp => by cases hp
  cases x with
  | start source name =>
    refine hnone rfl ?_
    simp only [Step.take, start_eq]
    cases (Grammar.Stream.start l.dialect (l.preprocessed source)).mapError Fault.grammar with
    | error f => rfl
    | ok st => rfl
  | readFrom st name filename =>
    have hlints := lints_readFrom name filename l st
    exact ⟨hlints.own, fun p _ => p.outcome_eq, hlints.reports,
      fun p hp f hf => congrArg some (fault_readFrom name filename hp hf)⟩
  | read source name filename =>
    have hlints := lints_read l source name filename
    refine ⟨hlints.own, fun p _ => p.outcome_eq, hlints.reports, fun p hp f hf => ?_⟩
    simp only [Step.passes, start_eq] at hp
    simp only [Step.take, read, start_eq]
    cases hst : (Grammar.Stream.start l.dialect (l.preprocessed source)).mapError Fault.grammar with
    | error g =>
      rw [hst] at hp
      cases hp
    | ok st =>
      rw [hst] at hp
      exact congrArg some (fault_readFrom name filename hp hf)
  | _ => exact hnone rfl rfl

/-- The rule table of a linter over steps. -/
structure ResolvedOnce (l : Linter) (xs : List Step) : Prop where
  /-- As long as no pass has got a table, a pass resolves the source that there is at its time. The
  first table that comes of this is used from then on. -/
  used : ∀ before p later, passes xs l = before ++ p :: later →
    p.used = (firstMade before).elim p.current .ok
  /-- It is kept, and nothing else is. -/
  table : (after xs l).table = firstMade (passes xs l)
  /-- Once there is a table, it is used whatever is done, and steps that are about the sources
  change nothing but the sources: neither a report nor an answer. -/
  fixed : ∀ t, firstMade (passes xs l) = some t → ∀ ys,
    (∀ p ∈ passes ys (after xs l), p.used = .ok t) ∧
    ∀ ys', ys.filter Step.keepsRules = ys'.filter Step.keepsRules →
      (after ys (after xs l)).reports = (after ys' (after xs l)).reports ∧
      answers ys (after xs l) = answers ys' (after xs l) ∧
      ∃ s t, after ys (after xs l) = (after ys' (after xs l)).withRules s t

/-- **The rule table is resolved once and then fixed.** The source that is resolved for a pass is
the one that the linter has in that step. -/
theorem resolved_once (hl : l.table = none) (xs : List Step) :
    ResolvedOnce l xs ∧
      ∀ before x later, xs = before ++ x :: later → x.Accounts (after before l) := by
  have hcached := cached_after xs l
  rw [hl] at hcached
  refine ⟨⟨fun before p later h => ?_, ?_, fun t ht ys => ⟨fun p hp => ?_, fun ys' h => ?_⟩⟩,
    fun before x later _ => accounts x (after before l)⟩
  · rw [h] at hcached
    rw [p.used_eq, hcached.table_of_mem, Option.none_or]
  · rw [hcached.table_eq, Option.none_or]
  · obtain ⟨before, later, hsplit⟩ := List.append_of_mem hp
    have hrest := cached_after ys (after xs l)
    rw [hcached.table_eq, Option.none_or, ht, hsplit] at hrest
    rw [p.used_eq, hrest.table_of_mem]
    rfl
  · have htable : (after xs l).table.isSome := by rw [hcached.table_eq, Option.none_or, ht]; rfl
    obtain ⟨s₁, t₁, hafter₁, hanswers₁⟩ :=
      after_withRules ys (after xs l).rules (after xs l).files htable
    obtain ⟨s₂, t₂, hafter₂, hanswers₂⟩ :=
      after_withRules ys' (after xs l).rules (after xs l).files htable
    have hsame : (after xs l).withRules (after xs l).rules (after xs l).files = after xs l := rfl
    rw [hsame] at hafter₁ hanswers₁ hafter₂ hanswers₂
    rw [hafter₁, hafter₂, hanswers₁, hanswers₂, h]
    exact ⟨rfl, rfl, s₁, t₁, rfl⟩

/-! ### A table that is made late -/

/-- In block mode there is a pass for every region that is closed, if the tokens of the template are
there. -/
lemma passesOf_lint {text : String} {name : Option String} {tokens : List Token}
    (hm : l.mode = .block) (hs : l.source = some text) (hn : l.sourceName = name)
    (ht : tokenize l.dialect text = .ok tokens) {r : Grammar.Region} {k : Nat}
    (hr : r.purpose = .lint k) (filename : Option String) :
    ∃ p, l.passesOf name filename r = [p] := by
  unfold passesOf
  simp only [hr, if_pos hm, regionIndex, hn, hs, if_true, ht]
  exact ⟨_, rfl⟩

/-- In block mode a region is closed without a fault if its tree can be walked, and not without
rules. -/
lemma closeRegion_of_raises {text : String} {name : Option String} {tokens : List Token}
    (hm : l.mode = .block) (hraises : l.raises = false) (hs : l.source = some text)
    (hn : l.sourceName = name) (ht : tokenize l.dialect text = .ok tokens) {r : Grammar.Region}
    {k : Nat} (hr : r.purpose = .lint k) (filename : Option String) :
    match l.ruleTable with
    | .error f => (l.closeRegion r name filename).2 = some (.rules f)
    | .ok t => (∀ w, (Lint.outcomeOf t (l.reach (some r)) w r.root).isOk) →
        (l.closeRegion r name filename).2 = none := by
  have htokens : tokenize l.configuration.dialect text = .ok tokens := ht
  have hclose := (closeRegion_eq hs hn r filename).2
  cases htable : l.ruleTable with
  | error f =>
    have hrules : l.configuration.rules = .error f := htable
    have hreport : l.configuration.regionReport text r k name filename = .error (.rules f) := by
      simp only [Configuration.regionReport, htokens, Configuration.treeReport, hrules]
    rw [hclose, Configuration.closing_of_error hm hr hreport]
  | ok t =>
    intro hok
    have hraises' : l.configuration.raises = false := hraises
    obtain ⟨report, hreport⟩ := Configuration.exists_regionReport (c := l.configuration) htable
      htokens hok k
    rw [hclose, Configuration.closing_of_ok hm hr hreport, hraises', Bool.and_false]
    rfl

/-- Of two regions both are gone through if the first one can be walked; without rules it ends the
reading. -/
lemma passesOfAll_pair {text : String} {name : Option String} {tokens : List Token}
    (hm : l.mode = .block) (hraises : l.raises = false) (hs : l.source = some text)
    (hn : l.sourceName = name) (ht : tokenize l.dialect text = .ok tokens)
    {inner outer : Grammar.Region} {j k : Nat} (hinner : inner.purpose = .lint j)
    (houter : outer.purpose = .lint k) (filename : Option String) :
    match l.ruleTable with
    | .error _ => ∃ p, l.passesOfAll name filename [inner, outer] = [p]
    | .ok t => (∀ w, (Lint.outcomeOf t (l.reach (some inner)) w inner.root).isOk) →
        ∃ p q, l.passesOfAll name filename [inner, outer] = [p, q] := by
  obtain ⟨p, hp⟩ := passesOf_lint hm hs hn ht hinner filename
  have hclose := closeRegion_of_raises hm hraises hs hn ht hinner filename
  have hadd := (closeRegion_eq hs hn inner filename).1
  rw [passesOfAll, hp]
  rcases hc : l.closeRegion inner name filename with ⟨l₁, _ | f⟩ <;> rw [hc] at hclose hadd
  · have hmode := congrArg Configuration.mode hadd.configuration
    have hdialect := congrArg Configuration.dialect hadd.configuration
    have ht₁ : tokenize l₁.dialect text = .ok tokens := by
      rw [← ht]
      exact congrArg (tokenize · text) hdialect
    obtain ⟨q, hq⟩ := passesOf_lint (hmode.trans hm) (hadd.source.trans hs)
      (hadd.sourceName.trans hn) ht₁ houter filename
    cases htable : l.ruleTable with
    | error f => simp [htable] at hclose
    | ok t =>
      refine fun _ => ⟨p, q, ?_⟩
      simp only [passesOfAll, hq]
      split <;> rfl
  · cases htable : l.ruleTable with
    | error g => exact ⟨p, rfl⟩
    | ok t =>
      rw [htable] at hclose
      intro hok
      cases hclose hok

/-- The linter is like a new one, apart from its rules. -/
def IsPlain (l : Linter) : Prop :=
  { l.configuration with rules := .ok .empty } = ({ raises := false } : Linter).configuration

lemma passes_nestedSource (h : l.IsPlain) :
    match l.ruleTable with
    | .error _ => ∃ p, (Step.read nestedSource none none).passes l = [p]
    | .ok t => (∀ r ∈ nestedRegions, ∀ w, (Lint.outcomeOf t usualLevels w r.root).isOk) →
        ∃ p q, (Step.read nestedSource none none).passes l = [p, q] := by
  have hm : l.mode = .block := congrArg Configuration.mode h
  have hraises : l.raises = false := congrArg Configuration.raises h
  have hdialect : l.dialect = {} := congrArg Configuration.dialect h
  have hextensions : l.extensions = [.lint, .inspect] := congrArg Configuration.extensions h
  have hreplacements : l.replacements = [] := congrArg Configuration.replacements h
  have htext : l.preprocessed nestedSource = nestedSource := by simp [preprocessed, hreplacements]
  have hregions := regions_nestedStream
  obtain ⟨inner, outer, hrs, hinner, houter⟩ : ∃ inner outer, nestedRegions = [inner, outer] ∧
    inner.purpose = .lint 1 ∧ outer.purpose = .lint 0 := ⟨_, _, rfl, rfl, rfl⟩
  obtain ⟨tree, htree⟩ := exists_tree_nestedStream
  obtain ⟨tokens, htokens, -⟩ := Grammar.matches_readFrom start_nestedSource htree
  set l₀ := l.prepare nestedSource none
  have hread : Grammar.readFrom l₀.extensions nestedStream l₀.opened =
      Grammar.readFrom [.lint, .inspect] nestedStream := by
    rw [← hextensions]
    rfl
  have hpasses : (Step.read nestedSource none none).passes l =
      l₀.passesOfAll none none [inner, outer] := by
    simp only [Step.passes, start_eq, hdialect, htext, start_nestedSource, Except.mapError,
      passesFrom]
    rw [hread, hregions, hrs]
  have hm₀ : l₀.mode = .block := hm
  have hs₀ : l₀.source = some nestedSource := congrArg some htext
  have hn₀ : l₀.sourceName = none := rfl
  have ht₀ : tokenize l₀.dialect nestedSource = .ok tokens := by
    rw [← htokens, ← hdialect]
    rfl
  have hpair := passesOfAll_pair hm₀ hraises hs₀ hn₀ ht₀ hinner houter none
  have htable : l₀.ruleTable = l.ruleTable := rfl
  have hreach : l₀.reach = fun _ => usualLevels := congrArg Configuration.reach h
  rw [htable, hreach] at hpair
  rw [hpasses, hrs]
  cases ht : l.ruleTable <;> rw [ht] at hpair
  · exact hpair
  · exact fun hok => hpair (hok inner (.head _))

lemma isPlain_read (h : l.IsPlain) (source : String) (name filename : Option String) :
    (l.read source name filename).1.IsPlain := by
  rw [IsPlain, (read_eq l source name filename).1.configuration]
  exact h

lemma passes_nestedSource_error (h : l.IsPlain) (ht : l.table = none) {f : ConfigFault}
    (hf : l.rules.resolved l.files = .error f) :
    (l.read nestedSource none none).1.table = none ∧
      ∃ p, (Step.read nestedSource none none).passes l = [p] ∧ p.current = .error f := by
  have hpasses := passes_nestedSource h
  have hlints := lints_read l nestedSource none none
  rw [show l.ruleTable = .error f by rw [ruleTable_eq, ht]; exact hf] at hpasses
  obtain ⟨p, hp⟩ := hpasses
  rw [hp] at hlints
  obtain ⟨hrules, hfiles⟩ := hlints.own p (.head _)
  have hcurrent : p.current = .error f := by rw [Pass.current, hrules, hfiles, hf]
  refine ⟨?_, p, hp, hcurrent⟩
  rw [hlints.cached.table_eq, ht]
  simp [firstMade, hcurrent, Except.toOption]

lemma passes_nestedSource_ok (h : l.IsPlain) (ht : l.ruleTable = .ok outputTable) :
    (l.read nestedSource none none).1.table = some outputTable ∧
      ∃ p q, (Step.read nestedSource none none).passes l = [p, q] ∧
        p.current = l.rules.resolved l.files ∧ q.current = l.rules.resolved l.files := by
  have hpasses := passes_nestedSource h
  have hlints := lints_read l nestedSource none none
  rw [ht] at hpasses
  obtain ⟨p, q, hp⟩ := hpasses isOk_outputTable
  rw [hp] at hlints
  have hcurrent : ∀ r ∈ [p, q], r.current = l.rules.resolved l.files := by
    intro r hr
    obtain ⟨hrules, hfiles⟩ := hlints.own r hr
    rw [Pass.current, hrules, hfiles]
  refine ⟨?_, p, q, hp, hcurrent p (.head _), hcurrent q (.tail _ (.head _))⟩
  rw [hlints.cached.table_eq]
  rw [ruleTable_eq] at ht
  cases htable : l.table with
  | some t =>
    rw [htable] at ht
    cases ht
    rfl
  | none =>
    rw [htable] at ht
    have ht' : l.rules.resolved l.files = .ok outputTable := ht
    simp [firstMade, hcurrent p (.head _), ht', Except.toOption]

lemma passes_rules (s : RuleSource) (xs : List Step) (l : Linter) :
    passes (.rules s :: xs) l = passes xs { l with rules := s } :=
  rfl

lemma passes_read (source : String) (name filename : Option String) (xs : List Step) (l : Linter) :
    passes (.read source name filename :: xs) l =
      (Step.read source name filename).passes l ++ passes xs (l.read source name filename).1 :=
  rfl

def noRules : Path := .ofString "rules"

lemma isDirectory_noRules : FileTree.empty.isDirectory noRules = false := by
  have hplace : noRules = Path.here.child "rules" := by decide +kernel
  rw [hplace, FileTree.isDirectory, FileTree.find_child (FileTree.leadsTo_here _) (by decide),
    FileTree.follow_nil_child]
  rfl

/-- No table comes of a directory that is not there. -/
lemma resolved_of_not_isDirectory {files : FileTree} {path : Path}
    (h : files.isDirectory path = false) :
    (RuleSource.directory path).resolved files = .error (.noDirectory path) := by
  rw [RuleSource.resolved, RuleTable.ofDirectory, FileTree.loadRules, FileTree.ruleFiles, h]
  rfl

/-- A directory that is not there is tried once, then a table is given; taking it away again does
not matter. -/
theorem resolved_once_late :
    let l : Linter := { raises := false, rules := .directory noRules }
    let read := Step.read nestedSource none none
    let xs := [read, .rules (.table outputTable), read, .rules .nothing, read]
    l.table = none ∧ ∃ p₀ p₁ p₂ p₃ p₄, passes xs l = [p₀, p₁, p₂, p₃, p₄] ∧
      p₀.used = .error (.noDirectory noRules) ∧ p₁.used = .ok outputTable ∧
      p₂.used = .ok outputTable ∧ p₃.used = .ok outputTable ∧ p₄.used = .ok outputTable ∧
      p₄.current = .ok .empty ∧ (after xs l).table = some outputTable := by
  intro l read xs
  obtain ⟨⟨hused, htable, -⟩, -⟩ := resolved_once (l := l) rfl xs
  have hmissing : l.rules.resolved l.files = .error (.noDirectory noRules) :=
    resolved_of_not_isDirectory isDirectory_noRules
  obtain ⟨htable₁, p₀, hp₀, hcurrent₀⟩ := passes_nestedSource_error (l := l) rfl rfl hmissing
  have hplain₁ := isPlain_read (l := l) rfl nestedSource none none
  have hfirst : passes xs l = _ := passes_read nestedSource none none (xs.drop 1) l
  generalize (l.read nestedSource none none).1 = m₁ at htable₁ hplain₁ hfirst
  -- a table is given
  have hrules₁ :
      ({ m₁ with rules := .table outputTable } : Linter).ruleTable = .ok outputTable := by
    rw [ruleTable, htable₁]
  have hsecond : passes (xs.drop 1) m₁ = _ :=
    (passes_rules (.table outputTable) (xs.drop 2) m₁).trans (passes_read _ _ _ (xs.drop 3) _)
  generalize hm₂ : ({ m₁ with rules := .table outputTable } : Linter) = m₂ at hrules₁ hsecond
  have hplain₂ : m₂.IsPlain := hm₂ ▸ hplain₁
  have hcurrent : m₂.rules.resolved m₂.files = .ok outputTable := hm₂ ▸ rfl
  obtain ⟨htable₂, p₁, p₂, hp₁, hcurrent₁, -⟩ := passes_nestedSource_ok hplain₂ hrules₁
  have hplain₃ := isPlain_read hplain₂ nestedSource none none
  generalize (m₂.read nestedSource none none).1 = m₃ at htable₂ hplain₃ hsecond
  -- it is taken away again
  have hrules₃ : ({ m₃ with rules := .nothing } : Linter).ruleTable = .ok outputTable := by
    rw [ruleTable, htable₂]
  obtain ⟨-, p₃, p₄, hp₃, -, hcurrent₄⟩ :=
    passes_nestedSource_ok (l := { m₃ with rules := .nothing }) hplain₃ hrules₃
  have hthird : passes (xs.drop 3) m₃ = _ :=
    (passes_rules .nothing (xs.drop 4) m₃).trans (passes_read _ _ _ (xs.drop 5) _)
  rw [hp₃] at hthird
  rw [hthird, hp₁] at hsecond
  rw [hsecond, hp₀] at hfirst
  have hmade₀ : firstMade [p₀] = none := by simp [firstMade, hcurrent₀, Except.toOption]
  have hmade : ∀ ps, firstMade (p₀ :: p₁ :: ps) = some outputTable := fun ps => by
    simp [firstMade, hcurrent₀, hcurrent₁, hcurrent, Except.toOption]
  refine ⟨rfl, p₀, p₁, p₂, p₃, p₄, hfirst, ?_, ?_, ?_, ?_, ?_, hcurrent₄, ?_⟩
  · rw [hused [] p₀ _ hfirst, ← hcurrent₀]
    rfl
  · rw [hused [p₀] p₁ _ hfirst, hmade₀, ← hcurrent, ← hcurrent₁]
    rfl
  · rw [hused [p₀, p₁] p₂ _ hfirst, hmade]
    rfl
  · rw [hused [p₀, p₁, p₂] p₃ _ hfirst, hmade]
    rfl
  · rw [hused [p₀, p₁, p₂, p₃] p₄ _ hfirst, hmade]
    rfl
  · rw [htable, hfirst]
    exact hmade _

end TemplateLint.Linter
