import TemplateLint.Proofs.Complete.Statement
import TemplateLint.Proofs.Grammar.Template
import TemplateLint.Proofs.Linter.Blocks

/-!
Linting is transparent: what a template is read as does not depend on how its regions are linted.

In block mode every region is cut out of the tokens of the template and walked before the reading
goes on. If the template can be read then it has tokens, and regions are complete, so nothing is
left that could stop the reading but rules that cannot be made, a callback that fails, a region that
is too deep, and a failing report that is to be raised. Whether an inspected region can be described
is the same for all linters that can go equally far down. Main statement:
`read_eq_ok_iff_read_eq_ok`.
-/

namespace TemplateLint

namespace Walk

lemma unset_mem_of_trace {w : View} {t : RuleTable} {ms : List Moment} {n : Nat} {kind : Kind}
    (h : (trace w t ms n).fault = some (.unset kind)) : .unset kind ∈ ms := by
  induction ms generalizing n with
  | nil => cases h
  | cons m ms ih =>
    cases m with
    | tooDeep => cases h
    | unset kind' =>
      cases h
      exact List.mem_cons_self
    | visit v phase =>
      simp only [trace] at h
      split at h
      · exact List.mem_cons_of_mem _ (ih h)
      · cases h

end Walk

namespace Lint

lemma outcomeOf_ne_unset {root : Node} (h : root.Complete) (t : RuleTable) (levels : Nat)
    (w : View) (kind : Kind) : outcomeOf t levels w root ≠ .error (.unset kind) := by
  intro ho
  unfold outcomeOf at ho
  split at ho
  · next f hf =>
    cases ho
    exact Walk.unset_not_mem_moments (v := ⟨root, []⟩) h levels kind (Walk.unset_mem_of_trace hf)
  · cases ho

end Lint

namespace Configuration

open Linter (Fault firstText)

variable {c : Configuration} {t : RuleTable} {source : String} {name filename : Option String}
  {n : Node}

/-- What a template is read as is what the grammar says, and its inspected regions have been
described. -/
lemma tree_of_read (h : (c.read source name filename).2 = .ok n) :
    (Grammar.read c.dialect c.extensions (c.preprocessed source)).tree = .ok n ∧
      c.Describes source := by
  obtain ⟨st, hst, htree, hclosings⟩ := read_eq_ok (Prod.ext rfl h)
  rw [Describes, Grammar.read, hst]
  exact ⟨htree, not_undescribed_of_closings (by rw [hclosings])⟩

/-- A template that the grammar allows is read as it says, unless an inspected region cannot be
described or the walk of a region is stopped; and that is not for fields that are unset. -/
lemma read_of_tree (hraises : c.raises = false) (hrules : c.rules = .ok t)
    (h : (Grammar.read c.dialect c.extensions (c.preprocessed source)).tree = .ok n)
    (hdescribed : c.Describes source) :
    (c.read source name filename).2 = .ok n ∨
      ∃ g, (c.read source name filename).2 = .error (.walk g) ∧ (∀ kind, g ≠ .unset kind) ∧
        ∃ r ∈ (Grammar.read c.dialect c.extensions (c.preprocessed source)).regions, ∃ index,
          Lint.outcomeOf t (c.reach (some r))
            (Lint.viewOf r.root index (firstText filename name) c.app) r.root = .error g := by
  unfold Describes at hdescribed
  unfold Grammar.read at h hdescribed ⊢
  unfold read
  dsimp only
  cases hst : Grammar.Stream.start c.dialect (c.preprocessed source) with
  | error f =>
    rw [hst] at h
    cases h
  | ok st =>
    rw [hst] at h hdescribed
    dsimp only at h hdescribed ⊢
    obtain ⟨tokens, htokens, -⟩ := Grammar.matches_readFrom hst h
    rcases hc : c.closings (c.preprocessed source) name filename
        (Grammar.readFrom c.extensions st).regions with ⟨reports, _ | f⟩
    · exact .inl (by rw [h]; rfl)
    · obtain ⟨r, hr, ⟨-, hundescribed⟩ | ⟨index, g, rfl, hg⟩⟩ :=
        closings_fault hraises hrules htokens (by rw [hc])
      · exact absurd hundescribed (hdescribed r hr)
      refine .inr ⟨g, rfl, fun kind hkind => ?_, r, hr, index, hg⟩
      have hcomplete := (Grammar.complete_readFrom c.extensions st 0).1 r hr
      exact Lint.outcomeOf_ne_unset hcomplete t _ _ kind (hkind ▸ hg)

end Configuration

namespace Linter

variable {l : Linter}

/-- Nothing but the grammar and the regions to be inspected stops a linter from reading a template:
its rules can be made, it does not raise failing reports, and it meets neither a callback that fails
nor a region that is too deep to be walked. -/
structure Unhindered (l : Linter) (source : String) (name filename : Option String) : Prop where
  raises : l.raises = false
  rules : ∃ t, l.ruleTable = .ok t
  callbacks : ∀ f, (l.read source name filename).2 ≠ .error (.walk (.callback f))
  depth : ∀ visited, (l.read source name filename).2 ≠ .error (.walk (.tooDeep visited))

lemma Unhindered.read_eq_ok_iff {source : String} {name filename : Option String}
    (h : Unhindered l source name filename) (n : Node) :
    (l.read source name filename).2 = .ok n ↔
      (Grammar.read l.dialect l.extensions (l.preprocessed source)).tree = .ok n ∧
        ∀ r ∈ (Grammar.read l.dialect l.extensions (l.preprocessed source)).regions,
          r.purpose = .inspect → r.root.describe? (l.reach (some r)) ≠ none := by
  obtain ⟨t, ht⟩ := h.rules
  have heq := (read_eq l source name filename).2.2
  have hgrammar : Grammar.read l.configuration.dialect l.configuration.extensions
      (l.configuration.preprocessed source) =
        Grammar.read l.dialect l.extensions (l.preprocessed source) := rfl
  rw [← hgrammar, heq]
  refine ⟨fun hread => ?_, fun ⟨hn, hdescribed⟩ => ?_⟩
  · obtain ⟨hn, hdescribed⟩ := Configuration.tree_of_read hread
    exact ⟨hn, fun r hr hp hd => hdescribed r hr ⟨hp, hd⟩⟩
  rcases Configuration.read_of_tree h.raises ht hn
    fun r hr hundescribed => hdescribed r hr hundescribed.1 hundescribed.2
    with hread | ⟨g, hg, hunset, -⟩
  · exact hread
  · rw [← heq] at hg
    cases g with
    | callback f => exact absurd hg (h.callbacks f)
    | tooDeep visited => exact absurd hg (h.depth visited)
    | unset kind => exact absurd rfl (hunset kind)

/-- **Linting is transparent.** Two linters that go by the same grammar, and equally far down where
they inspect, read a template as the same tree, or both of them cannot read it: the rules, the
application, the mode, the names that are given and whatever else has been linted before play no
part. -/
theorem read_eq_ok_iff_read_eq_ok (l l' : Linter) (source : String)
    (name filename name' filename' : Option String) (hdialect : l'.dialect = l.dialect)
    (hextensions : l'.extensions = l.extensions) (hreplacements : l'.replacements = l.replacements)
    (hreach : ∀ r, r.purpose = .inspect → l'.reach (some r) = l.reach (some r))
    (hl : Unhindered l source name filename) (hl' : Unhindered l' source name' filename')
    (n : Node) :
    (l.read source name filename).2 = .ok n ↔ (l'.read source name' filename').2 = .ok n := by
  have htext : l'.preprocessed source = l.preprocessed source := by
    simp only [preprocessed, hreplacements]
  rw [hl.read_eq_ok_iff, hl'.read_eq_ok_iff, hdialect, hextensions, htext]
  refine and_congr_right fun _ => forall₃_congr fun r _ hr => ?_
  rw [hreach r hr]

/-- A rule that notes and warns of every output. -/
def outputTable : RuleTable :=
  ⟨.standard, ["outputs"], [⟨"outputs", "Output", .enter, fun _ v =>
    [.note (.visit v.node.kind.label v.node.line), .record .warn (some "seen") none]⟩]⟩

lemma isOk_outputTable :
    ∀ r ∈ nestedRegions, ∀ w, (Lint.outcomeOf outputTable usualLevels w r.root).isOk := by
  intro r hr w
  rcases List.mem_pair.1 hr with rfl | rfl
  · rfl
  · rfl

/-- A nest of two blocks is read alike in block mode with a rule that warns, and in template mode
without rules. -/
theorem read_eq_ok_iff_read_eq_ok_nested :
    let l : Linter := { raises := false, rules := .table outputTable }
    let l' : Linter := { raises := false, mode := .template, app := some "shop" }
    Unhindered l nestedSource none none ∧ Unhindered l' nestedSource (some "nest") none ∧
    ∃ n, (l.read nestedSource none none).2 = .ok n ∧
      (l'.read nestedSource (some "nest") none).2 = .ok n := by
  intro l l'
  obtain ⟨n, hn⟩ := read_nestedSource (l := l) rfl rfl rfl rfl rfl isOk_outputTable none none
  obtain ⟨n', hn'⟩ := read_nestedSource (l := l') rfl rfl rfl rfl rfl isOk_nestedRegions
    (some "nest") none
  have hl : Unhindered l nestedSource none none :=
    ⟨rfl, ⟨_, rfl⟩, fun f hf => by simp [hn] at hf, fun k hk => by simp [hn] at hk⟩
  have hl' : Unhindered l' nestedSource (some "nest") none :=
    ⟨rfl, ⟨_, rfl⟩, fun f hf => by simp [hn'] at hf, fun k hk => by simp [hn'] at hk⟩
  exact ⟨hl, hl', n, hn, (read_eq_ok_iff_read_eq_ok l l' nestedSource none none (some "nest") none
    rfl rfl rfl (fun _ _ => rfl) hl hl' n).1 hn⟩

end Linter

end TemplateLint
