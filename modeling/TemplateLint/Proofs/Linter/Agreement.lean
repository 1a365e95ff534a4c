import TemplateLint.Proofs.Complete.Statement
import TemplateLint.Proofs.Grammar.Filters
import TemplateLint.Proofs.Linter.Configuration
import TemplateLint.Proofs.SourceIndex.Lines
import TemplateLint.Proofs.Splice.Region
import TemplateLint.Proofs.Walk.Calls

/-!
Linting by blocks agrees with linting as a whole.

A block is linted under a root of its own, with an index of its own tokens. Its nodes stand together
in the tree of the template and in the blocks around it, and its tokens stand together among those
of the template. So what is called for its nodes is called for them in the same order, and with
nothing in between, when the template or a block around it is linted, and its index is a part of
the template's. Only a tree that is too deep is not linted to the end; how far down a lint can go
may differ from one to the next. Main statement: `agreement_of_read`, which compares what callbacks
are called for; by `lintRegion_events` and `lintWhole_events` that is what a lint does.
-/

namespace TemplateLint

open Grammar (Region Extension)
open Walk

namespace Lint

variable (tokens : List Token) (filename app : Option String)

def blockView (r : Region) (k : Nat) : View :=
  viewOf r.root (.ofTokens (Block.extract tokens k).tokens) filename app

/-- What rules see of a template as a whole. -/
def templateView (tree : Node) : View := viewOf tree (.ofTokens tokens) filename app

/-- What callbacks are called for below the root when a tree is linted, in order. -/
def innerOccasions (t : RuleTable) (levels : Nat) (w : View) (root : Node) : List Occasion :=
  (inner (callsOf t levels w root)).map Call.occasion

end Lint

namespace Linter

variable {l : Linter} {t : RuleTable} {tokens : List Token}

/-- The events of making the rule table, if there are any, come before those of the calls. -/
lemma lintTree_events (hrules : l.ruleTable = .ok t) (levels : Nat) (root : Node)
    (index : SourceIndex) (name filename : Option String) :
    let w := Lint.viewOf root index (firstText filename name) l.app
    ∃ made, (l.lintTree levels root index name filename).1.run.events = l.run.events ++ made ++
      eventsOf ((Lint.callsOf t levels w root).flatMap (·.effects w)) := by
  intro w
  obtain ⟨made, hresolve⟩ := resolve_eq l
  refine ⟨made, ?_⟩
  rw [lintTree, hresolve, hrules]
  exact Lint.tree_events_eq_calls ..

theorem lintRegion_events {text : String} {name : Option String} (hs : l.source = some text)
    (hn : l.sourceName = name) (ht : tokenize l.dialect text = .ok tokens)
    (hrules : l.ruleTable = .ok t) (r : Region) (k : Nat) (filename : Option String) :
    let w := Lint.blockView tokens (firstText filename name) l.app r k
    ∃ made, (l.lintRegion r k name filename).1.run.events = l.run.events ++ made ++
      eventsOf ((Lint.callsOf t (l.reach (some r)) w r.root).flatMap (·.effects w)) := by
  intro w
  have hindex : l.regionIndex k name = (l.tell (Block.extract tokens k).log,
      .ok (.ofTokens (Block.extract tokens k).tokens)) := by
    rw [regionIndex, hn, hs, if_pos rfl]
    dsimp only
    rw [ht]
  have htree := lintTree_events (l := l.tell (Block.extract tokens k).log) hrules
    (l.reach (some r)) r.root (.ofTokens (Block.extract tokens k).tokens) name filename
  rw [lintRegion, hindex]
  dsimp only
  rw [show (l.tell (Block.extract tokens k).log).reach = l.reach from rfl]
  rcases hl : (l.tell (Block.extract tokens k).log).lintTree (l.reach (some r)) r.root
    (.ofTokens (Block.extract tokens k).tokens) name filename with ⟨l₁, f | report⟩ <;>
    rw [hl] at htree <;> exact htree

theorem lintWhole_events {source : String}
    (ht : tokenize l.dialect (l.preprocessed source) = .ok tokens) (hrules : l.ruleTable = .ok t)
    (tree : Node) (name filename : Option String) :
    let w := Lint.templateView tokens (firstText filename name) l.app tree
    ∃ made, (l.lintWhole tree source name filename).1.run.events = l.run.events ++ made ++
      eventsOf ((Lint.callsOf t (l.reach none) w tree).flatMap (·.effects w)) := by
  intro w
  have htree := lintTree_events (l := l.prepare source name) hrules (l.reach none) tree
    (.ofTokens tokens) name filename
  have hdialect : (l.prepare source name).dialect = l.dialect := rfl
  have htext : (l.prepare source name).preprocessed source = l.preprocessed source := rfl
  rw [lintWhole, hdialect, htext, ht]
  exact htree

end Linter

namespace Lint

section

variable (t : RuleTable) (reach : Linter.Reach) (tokens : List Token) (filename app : Option String)

/-- No callback fails when the blocks of a template are linted, and none when it is linted as a
whole. -/
structure Calm (rs : List Region) (tree : Node) : Prop where
  blocks : ∀ r ∈ rs, ∀ k, r.purpose = .lint k →
    Quiet t (reach (some r)) (blockView tokens filename app r k) r.root
  template : Quiet t (reach none) (templateView tokens filename app tree) tree

/-- How linting the blocks of a template goes with linting the whole template. -/
structure Agreement (rs : List Region) (tree : Node) : Prop where
  /-- The regions are the blocks of the tokens. -/
  blocks : Grammar.Matches rs tokens
  /-- Callbacks are called for a block as they are called for the template, unless that is too
  deep. -/
  template : ∀ r ∈ rs, ∀ k, r.purpose = .lint k →
    ¬TooDeep t (reach none) (templateView tokens filename app tree) tree →
    innerOccasions t (reach (some r)) (blockView tokens filename app r k) r.root <:+:
      occasions t (reach none) (templateView tokens filename app tree) tree
  /-- They are called for a block as they are called for one around it, unless that is too deep. -/
  outer : ∀ r ∈ rs, ∀ k, r.purpose = .lint k → ∀ r' ∈ rs, ∀ k', r'.purpose = .lint k' →
    r.IsWithin r' → ¬TooDeep t (reach (some r')) (blockView tokens filename app r' k') r'.root →
    innerOccasions t (reach (some r)) (blockView tokens filename app r k) r.root <:+:
      occasions t (reach (some r')) (blockView tokens filename app r' k') r'.root
  /-- The lines of a block are parts of the lines of the template. -/
  index : ∀ r ∈ rs, ∀ k, r.purpose = .lint k →
    (blockView tokens filename app r k).index.IsPart (templateView tokens filename app tree).index

end

variable {t : RuleTable} {levels levels' : Nat} {w w' : View} {root whole : Node}
  {ns ms : List Node}

lemma innerOccasions_contiguous (hquiet : Quiet t levels w root)
    (hquiet' : Quiet t levels' w' whole) (hroot : root.Complete) (hwhole : whole.Complete)
    (hns : root.walked? = some ns) (hms : whole.walked? = some ms) (hsplice : Spliced ns ms)
    (hdeep : ¬TooDeep t levels' w' whole) :
    innerOccasions t levels w root <:+: occasions t levels' w' whole := by
  rw [innerOccasions, occasions, hquiet.callsOf_eq, hquiet'.callsOf_eq]
  exact inner_occasions_contiguous hroot hwhole hns hms hsplice levels levels' fun h =>
    hdeep (hquiet'.tooDeep_of_mem hwhole h)

/-- **Linting by blocks agrees with linting as a whole.** In every template without inspected
regions that can be read, and if no callback fails, each block is linted as a part of the template
and of every block around it, unless these are too deep, and each line of the block is a part of the
line of the template. -/
theorem agreement_of_read (d : Dialect) (es : List Extension) (text : String)
    (reach : Linter.Reach) (filename app : Option String) {tree : Node} {tokens : List Token}
    (htree : (Grammar.read d es text).tree = .ok tree) (htokens : tokenize d text = .ok tokens)
    (hinspect : Block.openings "inspect" tokens = 0)
    (ht : Calm t reach tokens filename app (Grammar.read d es text).regions tree) :
    Agreement t reach tokens filename app (Grammar.read d es text).regions tree := by
  obtain ⟨hblocks, hplaced⟩ := Grammar.placed_of_read htree htokens hinspect
  obtain ⟨hregions, hcomplete⟩ := Grammar.complete_read d es text
  obtain ⟨ms, hms, htemplate⟩ := hplaced.template
  have hwalked : ∀ r : Region, r.root.walked? = some r.body := fun r => Node.walked?_template _ _
  refine ⟨hblocks, fun r hr k hk hdeep => ?_, fun r hr k hk r' hr' k' hk' hin hdeep => ?_,
    fun r hr k hk => ?_⟩
  · exact innerOccasions_contiguous (ht.blocks r hr k hk) ht.template (hregions r hr)
      (hcomplete tree htree) (hwalked r) hms (htemplate r hr k hk) hdeep
  · exact innerOccasions_contiguous (ht.blocks r hr k hk) (ht.blocks r' hr' k' hk')
      (hregions r hr) (hregions r' hr') (hwalked r) (hwalked r')
      (hplaced.outer r hr k hk r' hr' k' hk' hin) hdeep
  · have htokens_r : (Block.extract tokens k).tokens <:+: tokens := by
      rw [hblocks.extract r hr k hk]
      exact (List.take_prefix _ _).isInfix.trans (List.drop_suffix _ _).isInfix
    exact SourceIndex.isPart_ofTokens htokens_r

/-! ### Trees with many filters -/

/-- A rule that warns of every name on its line, and notes the line. -/
def symbolRegistration : Registration :=
  ⟨"names", "Symbol", .enter, fun _ v =>
    [.record .warn (some "a name") v.node.line, .note (.lineNumber v.node.line)]⟩

def symbolTable : RuleTable := ⟨.standard, ["names"], [symbolRegistration]⟩

lemma fault?_symbolRegistration {v : Visit} (hline : v.node.line = some 1) :
    Call.fault? w ⟨symbolRegistration, v⟩ = none := by
  have hmessage : (some "a name").all Text.Utf16.holdsHalf = false := by decide +kernel
  have hflaws : Document.flaws (Document.diagnostic { toView := w } "names" .warn "a name"
      (some 1)).line (some "a name") = [] := by
    unfold Document.diagnostic
    split
    · next n hn =>
      obtain ⟨hn, -⟩ := Option.filter_eq_some_iff.1 hn
      cases hn
      simp [Document.flaws, hmessage]
    · simp [Document.flaws, hmessage]
  simp [Call.fault?, Call.outcome, Call.rule, Call.key, symbolRegistration, effectsOf, Act.effect,
    hline, hflaws]

def symbolCall (path : List Link) : Call :=
  ⟨symbolRegistration, ⟨Grammar.nodeAt 1 .name [.text "y", .text "load"], path⟩⟩

/-- No callback fails if nothing is called, or only for the name. -/
lemma quiet_symbolTable (h : calls symbolTable (moments levels ⟨root, []⟩) = [] ∨
    ∃ path, calls symbolTable (moments levels ⟨root, []⟩) = [symbolCall path]) :
    Quiet symbolTable levels w root := by
  refine quiet_of_calls fun c hc => ?_
  obtain hnone | ⟨path, hone⟩ := h
  · rw [hnone] at hc
    cases hc
  · rw [hone] at hc
    rw [List.mem_singleton.1 hc]
    exact fault?_symbolRegistration rfl

def filteredTree (n : Nat) : Node :=
  Grammar.nodeAt 1 .template [.nodes [Grammar.filteredNode n, Grammar.nameOutput]]

lemma filtersAround_succ (n : Nat) (e : Node) : Grammar.filtersAround (n + 1) e =
    Grammar.filterOf (some (Grammar.filtersAround n e)) := by
  induction n generalizing e with
  | zero => rfl
  | succ n ih => rw [Grammar.filtersAround, ih, Grammar.filtersAround]

/-- A walk does not come out of filters that are too many. -/
lemma calls_filtersAround {n : Nat} (h : levels ≤ n) (e : Node) (path : List Link)
    (ms : List Moment) :
    calls symbolTable (moments levels ⟨Grammar.filtersAround n e, path⟩ ++ ms) = [] := by
  induction levels generalizing n path ms with
  | zero => rfl
  | succ levels ih =>
    obtain ⟨n, rfl⟩ : ∃ k, n = k + 1 := ⟨n - 1, by omega⟩
    obtain ⟨link, hsteps⟩ : ∃ link, (⟨Grammar.filtersAround (n + 1) e, path⟩ : Visit).node.steps? =
        some [(link, Grammar.filtersAround n e)] := by
      rw [filtersAround_succ]
      exact ⟨_, rfl⟩
    have hfor : callsFor symbolTable ⟨Grammar.filtersAround (n + 1) e, path⟩ .enter = [] := by
      rw [filtersAround_succ]
      rfl
    rw [moments_succ hsteps, momentsOf, List.map_singleton, List.flatMap_singleton,
      List.cons_append, calls, hfor, List.append_assoc]
    exact ih (by omega) _ _

lemma calls_filteredTree {n : Nat} (h : levels ≤ n) :
    calls symbolTable (moments levels ⟨filteredTree n, []⟩) = [] := by
  have hroot : (⟨filteredTree n, []⟩ : Visit).node.steps? =
    some [(⟨.template, "body", 0⟩, Grammar.filteredNode n),
      (⟨.template, "body", 1⟩, Grammar.nameOutput)] := rfl
  have hfilter : Node.steps? (Grammar.filteredNode n) =
    some [(⟨.filterBlock, "filter", 0⟩, Grammar.filtersAround n (Grammar.filterOf none))] := rfl
  match levels with
  | 0 => rfl
  | 1 => rfl
  | levels + 2 =>
    have hout : ∀ ms, calls symbolTable (moments levels
        ⟨Grammar.filtersAround n (Grammar.filterOf none),
          [⟨.template, "body", 0⟩, ⟨.filterBlock, "filter", 0⟩]⟩ ++ ms) = [] :=
      calls_filtersAround (by omega) _ _
    have hfor : callsFor symbolTable ⟨filteredTree n, []⟩ .enter = [] := rfl
    have hfor' : callsFor symbolTable ⟨Grammar.filteredNode n, [⟨.template, "body", 0⟩]⟩ .enter =
      [] := rfl
    rw [moments_succ hroot, momentsOf, List.map_cons, List.flatMap_cons]
    have hvisit : (⟨filteredTree n, []⟩ : Visit).child
      (⟨.template, "body", 0⟩, Grammar.filteredNode n) =
        ⟨Grammar.filteredNode n, [⟨.template, "body", 0⟩]⟩ := rfl
    rw [hvisit, moments_succ hfilter, momentsOf, List.map_singleton, List.flatMap_singleton]
    simp only [List.cons_append, List.append_assoc, calls, hfor, hfor', List.nil_append]
    exact hout _

/-- In the block the rule is called for the name. -/
lemma calls_blockBehind (h : 3 ≤ levels) (place : Nat) :
    calls symbolTable (moments levels ⟨(Grammar.blockBehind place).root, []⟩) =
      [symbolCall [⟨.template, "body", 0⟩, ⟨.output, "nodes", 0⟩]] := by
  obtain ⟨levels, rfl⟩ : ∃ k, levels = k + 3 := ⟨levels - 3, by omega⟩
  cbv

lemma calm_filteredSource {n : Nat} {reach : Linter.Reach} {tokens : List Token}
    {filename app : Option String}
    (hblock : 3 ≤ reach (some (Grammar.blockBehind (4 + 2 * n + 4))))
    (htemplate : Quiet symbolTable (reach none)
      (templateView tokens filename app (filteredTree n)) (filteredTree n)) :
    Calm symbolTable reach tokens filename app
      (Grammar.read {} [.lint, .inspect] (filteredSource n)).regions (filteredTree n) := by
  refine ⟨fun r hr k _ => ?_, htemplate⟩
  rw [Grammar.read_filteredSource n] at hr
  rw [List.mem_singleton.1 hr]
  exact quiet_symbolTable (.inr ⟨_, calls_blockBehind hblock _⟩)

/-- With two filters the block is linted as a part of the template. -/
theorem agreement_of_read_filtered : ∃ tree tokens,
    (Grammar.read {} [.lint, .inspect] (filteredSource 1)).tree = .ok tree ∧
    tokenize {} (filteredSource 1) = .ok tokens ∧ Block.openings "inspect" tokens = 0 ∧
    Calm symbolTable (fun _ => Linter.usualLevels) tokens none (some "shop")
      (Grammar.read {} [.lint, .inspect] (filteredSource 1)).regions tree ∧
    Agreement symbolTable (fun _ => Linter.usualLevels) tokens none (some "shop")
      (Grammar.read {} [.lint, .inspect] (filteredSource 1)).regions tree ∧
    ¬TooDeep symbolTable Linter.usualLevels (templateView tokens none (some "shop") tree) tree ∧
    (occasions symbolTable Linter.usualLevels (templateView tokens none (some "shop") tree)
      tree).length = 1 := by
  obtain ⟨tokens, htokens, hinspect⟩ := Grammar.exists_tokens_filteredSource 1
  have htree : (Grammar.read {} [.lint, .inspect] (filteredSource 1)).tree =
      .ok (filteredTree 1) := by
    rw [Grammar.read_filteredSource 1]
    rfl
  have hcalls : calls symbolTable (moments Linter.usualLevels ⟨filteredTree 1, []⟩) =
      [symbolCall [⟨.template, "body", 1⟩, ⟨.output, "nodes", 0⟩]] := by
    rfl
  have hquiet : ∀ w, Quiet symbolTable Linter.usualLevels w (filteredTree 1) := fun w =>
    quiet_symbolTable (.inr ⟨_, hcalls⟩)
  have hcalm : Calm symbolTable (fun _ => Linter.usualLevels) tokens none (some "shop")
      (Grammar.read {} [.lint, .inspect] (filteredSource 1)).regions (filteredTree 1) :=
    calm_filteredSource (by decide) (hquiet _)
  refine ⟨filteredTree 1, tokens, htree, htokens, hinspect, hcalm,
    agreement_of_read {} [.lint, .inspect] (filteredSource 1) (fun _ => Linter.usualLevels) none
      (some "shop") htree htokens hinspect hcalm, fun ⟨visited, hdeep⟩ => ?_, ?_⟩
  · have hend : (ending (moments Linter.usualLevels ⟨filteredTree 1, []⟩) 0).2 = none := rfl
    rw [outcomeOf, traceOf, trace_of_quiet (hquiet _).calls, hend] at hdeep
    cases hdeep
  · rw [occasions, (hquiet _).callsOf_eq, hcalls]
    rfl

/-- A template that is too deep is not linted up to its block, which is linted. -/
theorem innerOccasions_not_contiguous : ∃ tree tokens r,
    (Grammar.read {} [.lint, .inspect] (filteredSource 4000)).tree = .ok tree ∧
    tokenize {} (filteredSource 4000) = .ok tokens ∧ Block.openings "inspect" tokens = 0 ∧
    r ∈ (Grammar.read {} [.lint, .inspect] (filteredSource 4000)).regions ∧ r.purpose = .lint 0 ∧
    ∀ reach : Linter.Reach, 3 ≤ reach (some r) → reach none ≤ 4000 →
      Calm symbolTable reach tokens none none
        (Grammar.read {} [.lint, .inspect] (filteredSource 4000)).regions tree ∧
      ¬innerOccasions symbolTable (reach (some r)) (blockView tokens none none r 0) r.root <:+:
        occasions symbolTable (reach none) (templateView tokens none none tree) tree := by
  obtain ⟨tokens, htokens, hinspect⟩ := Grammar.exists_tokens_filteredSource 4000
  have hread := Grammar.read_filteredSource 4000
  refine ⟨filteredTree 4000, tokens, Grammar.blockBehind (4 + 2 * 4000 + 4), ?_, htokens, hinspect,
    ?_, rfl, fun reach hblock htemplate => ?_⟩
  · rw [hread]
    rfl
  · rw [hread]
    exact List.mem_singleton_self _
  · have hcalls := calls_filteredTree htemplate
    have hinner := calls_blockBehind hblock (4 + 2 * 4000 + 4)
    have hcalm : Calm symbolTable reach tokens none none
        (Grammar.read {} [.lint, .inspect] (filteredSource 4000)).regions (filteredTree 4000) :=
      calm_filteredSource hblock (quiet_symbolTable (.inl hcalls))
    refine ⟨hcalm, ?_⟩
    rw [occasions, hcalm.template.callsOf_eq, hcalls, List.map_nil, List.infix_nil,
      innerOccasions, (quiet_symbolTable (.inr ⟨_, hinner⟩)).callsOf_eq,
      hinner]
    simp [Walk.inner, symbolCall, Visit.isRoot]

end Lint

end TemplateLint
