import TemplateLint.Proofs.Linter.Configuration

/-!
The passes of a linter: each time that it goes through a region, and with which rule table.

A pass asks for the rule table, and this makes the table if there is none. So the state of the
linter after some passes tells which of them has been the first to get a table (`Cached`). Every
operation on templates is a row of passes: its reports are theirs (`Lints`), and where one of them
fails, it fails. Main statements: `lints_readFrom`, `fault_readFrom`.
-/

namespace TemplateLint

/-- What a source of rules comes to. -/
def RuleSource.resolved (files : FileTree) : RuleSource → Except ConfigFault RuleTable
  | .nothing => .ok .empty
  | .table t => .ok t
  | .directory path => (RuleTable.ofDirectory files path).table

namespace Linter

open Grammar (Region)

/-- A tree that is linted as far as a number of levels goes, and the linter at this time. -/
structure Pass where
  linter : Linter
  levels : Nat
  root : Node
  index : SourceIndex
  name : Option String
  filename : Option String

namespace Pass

/-- What the source of rules comes to at this time. -/
def current (p : Pass) : Except ConfigFault RuleTable := p.linter.rules.resolved p.linter.files

/-- The rule table that the linter gets. -/
def used (p : Pass) : Except ConfigFault RuleTable := p.linter.resolve.2

def outcome (p : Pass) : Except Fault Report :=
  (p.linter.lintTree p.levels p.root p.index p.name p.filename).2

end Pass

def firstMade (ps : List Pass) : Option RuleTable := ps.findSome? fun p => p.current.toOption

def reportsOf (ps : List Pass) : List Report := ps.filterMap fun p => p.outcome.toOption

/-! ### The passes of operations -/

variable (name filename : Option String)

/-- A region is gone through if it is to be linted and its tokens are there. -/
def passesOf (l : Linter) (r : Region) : List Pass :=
  match r.purpose with
  | .inspect => []
  | .lint ordinal =>
    if l.mode = .block then
      match ({ l with opened := r.opened } : Linter).regionIndex ordinal name with
      | (_, .error _) => []
      | (l, .ok index) => [⟨l, l.reach (some r), r.root, index, name, filename⟩]
    else []

/-- The passes of regions up to the first one that fails. -/
def passesOfAll : List Region → Linter → List Pass
  | [], _ => []
  | r :: rs, l =>
    l.passesOf name filename r ++
      match l.closeRegion r name filename with
      | (l, none) => passesOfAll rs l
      | (_, some _) => []

/-- The passes while a template is read from its first terminal on. -/
def passesFrom (l : Linter) (st : Grammar.Stream) : List Pass :=
  l.passesOfAll name filename (Grammar.readFrom l.extensions st l.opened).regions

/-! ### The table -/

/-- Passes one after the other: each finds the table that has been made before, and if there is none
then the one that it makes stays. -/
inductive Cached : Option RuleTable → List Pass → Option RuleTable → Prop
  | nil (table : Option RuleTable) : Cached table [] table
  | cons {p : Pass} {ps : List Pass} {table : Option RuleTable} :
      Cached (p.linter.table.or p.current.toOption) ps table → Cached p.linter.table (p :: ps) table

namespace Cached

variable {a b c : Option RuleTable} {ps qs : List Pass}

lemma single {p : Pass} (h : p.linter.table.or p.current.toOption = a) :
    Cached p.linter.table [p] a :=
  .cons (h ▸ .nil _)

lemma append (h : Cached a ps b) (h' : Cached b qs c) : Cached a (ps ++ qs) c := by
  induction h with
  | nil => exact h'
  | cons _ ih => exact .cons (ih h')

lemma of_append (h : Cached a (ps ++ qs) c) : ∃ b, Cached a ps b ∧ Cached b qs c := by
  induction ps generalizing a with
  | nil => exact ⟨a, .nil a, h⟩
  | cons p ps ih =>
    cases h with
    | cons h =>
      obtain ⟨b, hps, hqs⟩ := ih h
      exact ⟨b, .cons hps, hqs⟩

/-- The table that is there after passes is the one that was there before, or the first one that
was made. -/
lemma table_eq (h : Cached a ps b) : b = a.or (firstMade ps) := by
  induction h with
  | nil => exact (Option.or_none).symm
  | @cons p ps table _ ih =>
    rw [ih, Option.or_assoc, firstMade, firstMade, List.findSome?_cons]
    cases p.current.toOption <;> rfl

/-- What a pass has found. -/
lemma table_of_mem {p : Pass} (h : Cached a (ps ++ p :: qs) c) :
    p.linter.table = a.or (firstMade ps) := by
  obtain ⟨b, hps, hqs⟩ := of_append h
  rw [← hps.table_eq]
  cases hqs
  rfl

end Cached

lemma ruleTable_eq (l : Linter) :
    l.ruleTable = l.table.elim (l.rules.resolved l.files) .ok := by
  unfold ruleTable RuleSource.resolved
  cases l.table <;> cases l.rules <;> rfl

/-- A pass uses the table that it finds, and makes one otherwise. -/
lemma Pass.used_eq (p : Pass) : p.used = p.linter.table.elim p.current .ok := by
  obtain ⟨events, h⟩ := resolve_eq p.linter
  rw [used, h]
  exact ruleTable_eq p.linter

/-- The outcome of a pass is the one of its tree under the table that it uses. -/
lemma Pass.outcome_eq (p : Pass) : p.outcome =
    match p.used with
    | .error f => .error (.rules f)
    | .ok t => (Lint.outcomeOf t p.levels (Lint.viewOf p.root p.index
        (firstText p.filename p.name) p.linter.app) p.root).mapError .walk := by
  obtain ⟨events, h⟩ := resolve_eq p.linter
  rw [outcome, (lintTree_eq ..).2, Configuration.treeReport, used, h]
  rfl

/-! ### Operations as rows of passes -/

/-- The linter has gone from one state to another one by passes. -/
structure Lints (l l' : Linter) (ps : List Pass) : Prop where
  rules : l'.rules = l.rules
  files : l'.files = l.files
  /-- Meanwhile the source of rules has been the same. -/
  own : ∀ p ∈ ps, p.linter.rules = l.rules ∧ p.linter.files = l.files
  cached : Cached l.table ps l'.table
  reports : l'.reports = l.reports ++ reportsOf ps

section

variable {l l' l'' : Linter} {ps qs : List Pass}

lemma Lints.trans (h : Lints l l' ps) (h' : Lints l' l'' qs) : Lints l l'' (ps ++ qs) where
  rules := h'.rules.trans h.rules
  files := h'.files.trans h.files
  own p hp := by
    rcases List.mem_append.1 hp with hp | hp
    · exact h.own p hp
    · obtain ⟨hrules, hfiles⟩ := h'.own p hp
      exact ⟨hrules.trans h.rules, hfiles.trans h.files⟩
  cached := h.cached.append h'.cached
  reports := by rw [h'.reports, h.reports, reportsOf, reportsOf, reportsOf, List.filterMap_append,
    List.append_assoc]

lemma lints_nil (hrules : l'.rules = l.rules) (hfiles : l'.files = l.files)
    (htable : l'.table = l.table) (hreports : l'.reports = l.reports) : Lints l l' [] where
  rules := hrules
  files := hfiles
  own p hp := by cases hp
  cached := htable ▸ .nil _
  reports := by rw [hreports, reportsOf, List.filterMap_nil, List.append_nil]

lemma lints_regionIndex (l : Linter) (ordinal : Nat) :
    Lints l (l.regionIndex ordinal name).1 [] := by
  unfold regionIndex
  split
  · exact lints_nil rfl rfl rfl rfl
  · split
    · exact lints_nil rfl rfl rfl rfl
    · exact lints_nil rfl rfl rfl rfl

/-- After a pass the table is kept, and the report is added if there is one. -/
lemma lints_pass (p : Pass) : Lints p.linter
    (match p.linter.lintTree p.levels p.root p.index p.name p.filename with
      | (l, .error _) => l
      | (l, .ok report) => { l with reports := l.reports ++ [report] }) [p] := by
  obtain ⟨events, h⟩ := resolve_eq p.linter
  have htable : p.linter.table.or p.current.toOption = p.linter.ruleTable.toOption := by
    rw [ruleTable_eq]
    cases p.linter.table <;> rfl
  have hown : ∀ q ∈ [p], q.linter.rules = p.linter.rules ∧ q.linter.files = p.linter.files :=
    fun q hq => by rw [List.mem_singleton.1 hq]; exact ⟨rfl, rfl⟩
  have houtcome : p.outcome =
    (p.linter.lintTree p.levels p.root p.index p.name p.filename).2 := rfl
  unfold lintTree at houtcome ⊢
  rw [h] at houtcome ⊢
  cases ht : p.linter.ruleTable with
  | error f =>
    rw [ht] at htable houtcome
    refine ⟨rfl, rfl, hown, .single htable, ?_⟩
    simp [reportsOf, houtcome, Except.toOption]
  | ok t =>
    rw [ht] at htable houtcome
    dsimp only at houtcome ⊢
    rcases hout : Lint.tree t p.levels p.root p.index (firstText p.filename p.name) p.linter.app
      ⟨p.linter.run.session, p.linter.run.events ++ events, p.linter.run.log ++
        p.linter.resolutionLog⟩ with ⟨run, f | report⟩ <;> rw [hout] at houtcome
    · refine ⟨rfl, rfl, hown, .single htable, ?_⟩
      simp [reportsOf, houtcome, Except.toOption, Except.mapError]
    · refine ⟨rfl, rfl, hown, .single htable, ?_⟩
      simp [reportsOf, houtcome, Except.toOption, Except.mapError]

lemma lints_lintRegion (l : Linter) (r : Region) (ordinal : Nat) :
    Lints l (l.lintRegion r ordinal name filename).1
      (match l.regionIndex ordinal name with
        | (_, .error _) => []
        | (l, .ok index) => [⟨l, l.reach (some r), r.root, index, name, filename⟩]) := by
  have hindex := lints_regionIndex name l ordinal
  unfold lintRegion
  rcases hi : l.regionIndex ordinal name with ⟨l₁, f | index⟩ <;> rw [hi] at hindex
  · exact hindex
  · have hpass := lints_pass ⟨l₁, l₁.reach (some r), r.root, index, name, filename⟩
    dsimp only at hpass ⊢
    rcases hl : l₁.lintTree (l₁.reach (some r)) r.root index name filename with
      ⟨l₂, f | report⟩ <;> rw [hl] at hpass
    · exact hindex.trans hpass
    · exact hindex.trans hpass

lemma lints_closeRegion (l : Linter) (r : Region) :
    Lints l (l.closeRegion r name filename).1 (l.passesOf name filename r) := by
  have hopened : Lints l { l with opened := r.opened } [] := lints_nil rfl rfl rfl rfl
  unfold closeRegion passesOf
  cases r.purpose with
  | inspect =>
    dsimp only
    split
    · exact hopened
    · exact lints_nil rfl rfl rfl rfl
  | lint ordinal =>
    dsimp only
    split
    · exact hopened.trans (lints_lintRegion name filename { l with opened := r.opened } r ordinal)
    · exact hopened

lemma lints_closeAll (rs : List Region) (l : Linter) :
    Lints l (l.closeAll name filename rs).1 (l.passesOfAll name filename rs) := by
  induction rs generalizing l with
  | nil => exact lints_nil rfl rfl rfl rfl
  | cons r rs ih =>
    have hfirst := lints_closeRegion name filename l r
    unfold closeAll passesOfAll
    rcases hc : l.closeRegion r name filename with ⟨l₁, _ | f⟩ <;> rw [hc] at hfirst
    · exact hfirst.trans (ih l₁)
    · rw [List.append_nil]
      exact hfirst

/-- **Reading a template is a row of passes.** -/
lemma lints_readFrom (l : Linter) (st : Grammar.Stream) :
    Lints l (l.readFrom st name filename).1 (l.passesFrom name filename st) := by
  have hclose := lints_closeAll name filename (Grammar.readFrom l.extensions st l.opened).regions l
  unfold readFrom passesFrom
  dsimp only
  rcases hc : l.closeAll name filename (Grammar.readFrom l.extensions st l.opened).regions with
    ⟨l₁, _ | f⟩ <;> rw [hc] at hclose
  · exact ⟨hclose.rules, hclose.files, hclose.own, hclose.cached, hclose.reports⟩
  · exact hclose

/-! ### Passes that fail -/

variable {p : Pass} {f : Fault}

lemma fault_closeRegion {r : Region} (hp : p ∈ l.passesOf name filename r)
    (hf : p.outcome = .error f) : (l.closeRegion r name filename).2 = some f := by
  unfold passesOf at hp
  unfold closeRegion
  split at hp
  · cases hp
  · next ordinal hpurpose =>
    split at hp
    · next hm =>
      split at hp
      · cases hp
      · next l₁ index hi =>
        obtain rfl := List.mem_singleton.1 hp
        simp only [hpurpose]
        rw [if_pos hm, lintRegion, hi]
        rw [Pass.outcome] at hf
        dsimp only at hf ⊢
        rcases hl : l₁.lintTree (l₁.reach (some r)) r.root index name filename
          with ⟨l₂, g | report⟩ <;>
          rw [hl] at hf <;> cases hf
        rfl
    · cases hp

/-- Where a pass fails, so does the reading of the template. -/
lemma fault_closeAll {rs : List Region} (hp : p ∈ l.passesOfAll name filename rs)
    (hf : p.outcome = .error f) : (l.closeAll name filename rs).2 = some f := by
  induction rs generalizing l with
  | nil => cases hp
  | cons r rs ih =>
    unfold passesOfAll at hp
    unfold closeAll
    rcases List.mem_append.1 hp with hp | hp
    · have hfault := fault_closeRegion name filename hp hf
      rcases hc : l.closeRegion r name filename with ⟨l₁, _ | g⟩ <;> rw [hc] at hfault
      · cases hfault
      · exact hfault
    · rcases hc : l.closeRegion r name filename with ⟨l₁, _ | g⟩ <;> rw [hc] at hp
      · exact ih hp
      · cases hp

lemma fault_readFrom {st : Grammar.Stream} (hp : p ∈ l.passesFrom name filename st)
    (hf : p.outcome = .error f) : (l.readFrom st name filename).2 = .error f := by
  have hfault := fault_closeAll name filename hp hf
  unfold readFrom
  dsimp only
  rcases hc : l.closeAll name filename (Grammar.readFrom l.extensions st l.opened).regions with
    ⟨l₁, _ | g⟩ <;> rw [hc] at hfault
  · cases hfault
  · cases hfault
    rfl

end

end Linter

end TemplateLint
