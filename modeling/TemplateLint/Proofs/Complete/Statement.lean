import TemplateLint.Grammar.Statement
import TemplateLint.Proofs.Complete.Expression

/-!
Templates are complete: the nodes of statements and of regions get values for all fields of their
kind. A region that is closed is complete also if the template behind it cannot be read. Main
statement: `complete_readFrom`.
-/

namespace TemplateLint.Grammar

/-! ### Phrases of statements -/

namespace Phrasing

lemma complete_phrase (p : Phrase) : Yields Node.Complete (phrase p) :=
  fun st a st' hr => Expression.complete_read st.bound p st a st' hr

lemma complete_target (attributes : Bool) (role : String) :
    Yields Node.Complete (target attributes role) := by
  have hitem := Expression.complete_primary complete_phrase attributes
  refine yields_bind (Expression.complete_tuple hitem false) fun e he => ?_
  exact yields_ite (yields_pure (he.withRole role)) (yields_fail _ _)

end Phrasing

namespace Reading

open Phrasing

lemma complete_tuple (part : Phrase) : Yields Node.Complete (tuple part) :=
  Expression.complete_tuple (complete_phrase part) false

lemma complete_expression : Yields Node.Complete expression := complete_phrase _

lemma complete_signature :
    Yields (fun r => (∀ n ∈ r.1, n.Complete) ∧ ∀ n ∈ r.2, n.Complete) signature := by
  refine yields_then fun _ => ?_
  refine yields_bind (yields_items (Q := fun x => x.1.Complete ∧ ∀ n ∈ x.2, n.Complete)
    fun before => ?_) fun ps hps => yields_then fun _ => yields_pure ⟨?_, ?_⟩
  · refine yields_then fun name => ?_
    have harg : (nodeAt name.2 .name [.text name.1, .text "param"]).Complete := by
      simp [Kind.fieldNames]
    dsimp only
    refine yields_then fun _ => yields_ite ?_ (yields_ite (yields_then fun _ => ?_) ?_)
    · exact yields_bind complete_expression fun e he => yields_pure ⟨harg, by simpa using he⟩
    all_goals exact yields_pure ⟨harg, by simp⟩
  · intro n hn
    obtain ⟨x, hx, rfl⟩ := List.mem_map.1 hn
    exact (hps x hx).1
  · intro n hn
    obtain ⟨x, hx, hn⟩ := List.mem_filterMap.1 hn
    exact (hps x hx).2 n hn

/-- An imported name is no node. -/
lemma complete_importedName : Yields (fun f => ∀ n, f ≠ .node n) importedName := by
  refine yields_then fun name => ?_
  dsimp only
  refine yields_ite (yields_then fun _ => ?_) ?_
  all_goals
    refine yields_then fun _ => yields_ite (yields_then fun _ => yields_pure ?_) (yields_pure ?_)
    all_goals simp

lemma complete_importedNames : Yields (fun r => (Field.list r.1).Complete) importedNames := by
  refine yields_loop (fun names => (Field.list names).Complete) (fun names hnames => ?_) (by simp)
  dsimp only
  refine yields_ite (yields_then fun _ => ?_) ?_
  all_goals
    refine yields_then fun s => yields_ite (yields_then fun _ => ?_) ?_
    all_goals
      refine yields_then fun c => ?_
      split
      · exact yields_pure hnames
      · refine yields_bind complete_importedName fun name hname => yields_then fun c => ?_
        have hmore : (Field.list (names ++ [name])).Complete := by
          rw [Field.complete_list] at hnames ⊢
          intro n hn
          rcases List.mem_append.1 hn with hn | hn
          · exact hnames n hn
          · exact absurd (List.mem_singleton.1 hn).symm (hname n)
        split
        · exact yields_pure hmore
        · exact yields_then fun _ => yields_ite (yields_pure hmore) (yields_pure hmore)

end Reading

/-! ### Readings -/

lemma Region.complete_root {r : Region} : r.root.Complete ↔ ∀ n ∈ r.body, n.Complete := by
  simp [Region.root, Kind.fieldNames]

/-- All regions that have been closed are complete. -/
def Progress.Complete (s : Progress) : Prop := ∀ r ∈ s.regions, r.root.Complete

namespace Reading

open Phrasing Expression

/-- What a reading gives, if it succeeds. Whether it does or not, the regions that it closes are
complete. -/
def Gives {α : Type} (Q : α → Prop) (p : Reading α) : Prop :=
  ∀ s, s.Complete → (p.run s).2.Complete ∧ ∀ a, (p.run s).1 = .ok a → Q a

section

variable {α β : Type} {Q : α → Prop} {R : β → Prop} {p : Reading α} {f : α → Reading β}

lemma gives_pure {a : α} (h : Q a) : Gives Q (pure a) := by
  refine fun s hs => ⟨hs, fun b hb => ?_⟩
  cases hb
  exact h

lemma gives_bind (hp : Gives Q p) (hf : ∀ a, Q a → Gives R (f a)) : Gives R (p >>= f) := by
  intro s hs
  have hrun : (p >>= f).run s = ExceptT.bindCont f (p.run s).1 (p.run s).2 := rfl
  rw [hrun]
  obtain ⟨hs₁, hQ⟩ := hp s hs
  rcases hr : p.run s with ⟨e | a, s₁⟩ <;> rw [hr] at hs₁ hQ
  · exact ⟨hs₁, fun b hb => by cases hb⟩
  · exact hf a (hQ a rfl) s₁ hs₁

lemma gives_map {g : α → β} (hp : Gives Q p) (hg : ∀ a, Q a → R (g a)) : Gives R (g <$> p) := by
  rw [← bind_pure_comp]
  exact gives_bind hp fun a ha => gives_pure (hg a ha)

lemma gives_ite {c : Prop} [Decidable c] {q : Reading α} (hp : Gives Q p) (hq : Gives Q q) :
    Gives Q (if c then p else q) := by
  split
  · exact hp
  · exact hq

lemma gives_phrase {q : Phrasing α} (h : Yields Q q) : Gives Q (liftM q : Reading α) := by
  intro s hs
  have hrun : (liftM q : Reading α).run s = (Reading.phrase q).run s := rfl
  rw [hrun]
  simp only [Reading.phrase, ExceptT.run_mk, StateT.run]
  cases hq : q s.stream with
  | error e => exact ⟨hs, fun a ha => by cases ha⟩
  | ok r =>
    refine ⟨hs, fun a ha => ?_⟩
    cases ha
    exact h s.stream r.1 r.2 hq

/-- A phrase that comes first may give anything. -/
lemma gives_then {q : Phrasing α} (hf : ∀ a, Gives R (f a)) :
    Gives R ((liftM q : Reading α) >>= f) :=
  gives_bind (gives_phrase (Q := fun _ => True) fun _ _ _ _ => trivial) fun a _ => hf a

lemma gives_fail (cause : Cause) (line : Nat) : Gives Q (liftM (fail cause line : Phrasing α)) :=
  gives_phrase (yields_fail cause line)

lemma gives_failHere (cause : Cause) : Gives Q (liftM (failHere cause : Phrasing α)) :=
  gives_phrase (yields_failHere cause)

/-- Closing a complete region. -/
lemma gives_close {r : Nat → Region} (h : ∀ opened, (r opened).root.Complete) :
    Gives (fun _ => True) (close r) := by
  refine fun s hs => ⟨fun r' hr' => ?_, fun _ _ => trivial⟩
  rcases List.mem_append.1 hr' with hr' | hr'
  · exact hs r' hr'
  · rw [List.mem_singleton.1 hr']
    exact h _

/-- Looking at the state. -/
lemma gives_get {f : Progress → Reading β} (h : ∀ s, Gives R (f s)) :
    Gives R (getThe Progress >>= f) :=
  fun s hs => h s s hs

lemma gives_numbered {f : Nat → Reading β} (h : ∀ n, Gives R (f n)) : Gives R (numbered >>= f) :=
  fun s hs => h s.opened { s with opened := s.opened + 1 } hs

end

/-- Nodes that are all complete. -/
abbrev AllComplete (ns : List Node) : Prop := ∀ n ∈ ns, n.Complete

lemma AllComplete.append {ns ms : List Node} (hn : AllComplete ns) (hm : AllComplete ms) :
    AllComplete (ns ++ ms) :=
  fun n h => (List.mem_append.1 h).elim (hn n) (hm n)

lemma allComplete_nil : AllComplete [] := by simp [AllComplete]

lemma allComplete_singleton {n : Node} : AllComplete [n] ↔ n.Complete := by simp [AllComplete]

variable {self : Search → Reading (List Node × Nat)} {search : Search}
  (hself : ∀ search, Gives (fun r => AllComplete r.1) (self search))

section

include hself

lemma complete_bodyUpTo (ends : List String) :
    Gives (fun b => AllComplete b.nodes) (bodyUpTo self search ends) := by
  refine gives_then fun _ => gives_then fun opening => gives_bind (hself _) fun r hr => ?_
  exact gives_then fun s => gives_ite (gives_then fun _ => gives_pure hr) (gives_pure hr)

lemma complete_body (tag : String) :
    Gives (fun b => AllComplete b.nodes) (body self search tag) :=
  gives_bind (complete_bodyUpTo hself _) fun _ hb => gives_then fun _ => gives_pure hb

lemma complete_loop : Gives Node.Complete (loop self search) := by
  refine gives_then fun tag => gives_bind (gives_phrase (complete_target _ _)) fun target ht => ?_
  refine gives_then fun _ => gives_bind (gives_phrase (complete_tuple _)) fun items hi => ?_
  have hnode : ∀ (test : Option Node) (isRecursive : Bool) (b other : List Node), Optional test →
      AllComplete b → AllComplete other → (nodeAt tag.line .forLoop [.node target, .node items,
        .nodes b, .nodes other, .ofOption test, .bool isRecursive]).Complete := by
    intro test isRecursive b other hc hb ho
    simpa [Kind.fieldNames, ht, hi] using ⟨hb, ho, hc⟩
  refine gives_then fun _ => gives_ite
    (gives_bind (gives_map (R := Optional) (gives_phrase complete_expression) fun e he => ?_)
      fun test hc => ?_)
    (gives_bind (Q := Optional) (gives_pure (by simp)) fun test hc => ?_)
  · simpa using he
  all_goals
    refine gives_then fun isRecursive => gives_bind (complete_bodyUpTo hself _) fun b hb => ?_
    refine gives_then fun ending => gives_ite ?_ ?_
    · refine gives_bind (gives_pure allComplete_nil) fun other ho => gives_pure ?_
      exact hnode _ _ _ _ hc hb ho
    · refine gives_bind (complete_body hself _) fun b' hb' => ?_
      exact gives_bind (gives_pure hb') fun other ho => gives_pure (hnode _ _ _ _ hc hb ho)

lemma complete_branches (rounds : Nat) :
    Gives (fun r => r.1.Complete ∧ AllComplete r.2.1 ∧
      (∀ x ∈ r.2.2.1, x.2.1.Complete ∧ AllComplete x.2.2) ∧ AllComplete r.2.2.2)
      (branches self search rounds) := by
  induction rounds with
  | zero => exact gives_failHere _
  | succ rounds ih =>
    refine gives_bind (gives_phrase (complete_tuple _)) fun test ht => ?_
    refine gives_bind (complete_bodyUpTo hself _) fun b hb => gives_then fun ending => ?_
    refine gives_ite (gives_then fun start => gives_bind ih fun r hr => gives_pure ?_)
      (gives_ite (gives_bind (complete_body hself _) fun b' hb' => gives_pure ?_) (gives_pure ?_))
    · obtain ⟨ht', hb', hmore, ho⟩ := hr
      exact ⟨ht, hb, List.forall_mem_cons.2 ⟨⟨ht', hb'⟩, hmore⟩, ho⟩
    · exact ⟨ht, hb, by simp, hb'⟩
    · exact ⟨ht, hb, by simp, allComplete_nil⟩

omit hself in
lemma complete_branchNode {line : Nat} {test : Node} {body elifs other : List Node}
    (ht : test.Complete) (hb : AllComplete body) (he : AllComplete elifs)
    (ho : AllComplete other) : (branchNode line test body elifs other).Complete := by
  simpa [branchNode, Kind.fieldNames, ht] using ⟨hb, he, ho⟩

lemma complete_branch : Gives Node.Complete (branch self search) := by
  refine gives_then fun tag => gives_get fun s => ?_
  refine gives_bind (complete_branches hself _) fun r hr => gives_pure ?_
  obtain ⟨ht, hb, hmore, ho⟩ := hr
  refine complete_branchNode ht hb (fun n hn => ?_) ho
  obtain ⟨x, hx, rfl⟩ := List.mem_map.1 hn
  exact complete_branchNode (hmore x hx).1 (hmore x hx).2 allComplete_nil allComplete_nil

lemma complete_block : Gives Node.Complete (block self search) := by
  refine gives_then fun tag => gives_then fun name => gives_then fun isScoped => ?_
  refine gives_then fun isRequired => gives_then fun hasHyphen => ?_
  refine gives_ite (gives_then fun _ => ?_) ?_
  all_goals
    refine gives_bind (complete_body hself _) fun b hb => ?_
    have hnode : (nodeAt tag.line .block [.text name.1, .nodes b.nodes, .bool isScoped,
        .bool isRequired]).Complete := by simpa [Kind.fieldNames] using hb
    refine gives_ite (gives_then fun _ => ?_) ?_
    all_goals exact gives_then fun _ => gives_pure hnode

lemma complete_macroDef : Gives Node.Complete (macroDef self search) := by
  refine gives_then fun tag => gives_then fun name => ?_
  refine gives_bind (gives_phrase complete_signature) fun r hr => ?_
  refine gives_bind (complete_body hself _) fun b hb => gives_pure ?_
  simpa [Kind.fieldNames] using ⟨hr.1, hr.2, hb⟩

lemma complete_callBlock : Gives Node.Complete (callBlock self search) := by
  refine gives_then fun tag => gives_then fun hasSignature => ?_
  refine gives_ite (gives_bind (gives_phrase complete_signature) fun r hr => ?_)
    (gives_bind (Q := fun r => AllComplete r.1 ∧ AllComplete r.2)
      (gives_pure ⟨allComplete_nil, allComplete_nil⟩) fun r hr => ?_)
  all_goals
    refine gives_bind (gives_phrase complete_expression) fun call hc => ?_
    refine gives_ite (gives_then fun _ => ?_) ?_
    all_goals
      refine gives_bind (complete_body hself _) fun b hb => gives_pure ?_
      simpa [Kind.fieldNames, hc] using ⟨hr.1, hr.2, hb⟩

lemma complete_filterBlock : Gives Node.Complete (filterBlock self search) := by
  refine gives_then fun tag => ?_
  refine gives_bind (gives_phrase (complete_filter complete_phrase (by simp))) fun first hf => ?_
  refine gives_bind (gives_phrase (complete_piped complete_phrase (by simpa using hf)))
    fun filter hfilter => ?_
  refine gives_bind (complete_body hself _) fun b hb => gives_pure ?_
  simpa [Kind.fieldNames] using ⟨hb, hfilter⟩

lemma complete_assignment : Gives Node.Complete (assignment self search) := by
  refine gives_then fun tag => gives_bind (gives_phrase (complete_target _ _)) fun target ht => ?_
  refine gives_then fun hasValue => gives_ite ?_ ?_
  · refine gives_bind (gives_phrase (complete_tuple _)) fun value hv => gives_pure ?_
    simp [Kind.fieldNames, ht, hv]
  · refine gives_bind (gives_phrase (complete_piped complete_phrase (by simp))) fun filter hf => ?_
    refine gives_bind (complete_body hself _) fun b hb => gives_pure ?_
    simpa [Kind.fieldNames, ht] using ⟨hf, hb⟩

lemma complete_withScope : Gives Node.Complete (withScope self search) := by
  refine gives_then fun tag => gives_bind (gives_phrase (yields_items
    (Q := fun x => x.1.Complete ∧ x.2.Complete) fun _ => ?_)) fun ps hps => ?_
  · refine yields_bind (complete_target _ _) fun target ht => yields_then fun _ => ?_
    exact yields_bind complete_expression fun value hv => yields_pure ⟨ht, hv⟩
  · refine gives_bind (complete_body hself _) fun b hb => gives_pure ?_
    have htargets : AllComplete (ps.map (·.1)) := by
      intro n hn
      obtain ⟨x, hx, rfl⟩ := List.mem_map.1 hn
      exact (hps x hx).1
    have hvalues : AllComplete (ps.map (·.2)) := by
      intro n hn
      obtain ⟨x, hx, rfl⟩ := List.mem_map.1 hn
      exact (hps x hx).2
    refine complete_nodeAt.2 ⟨rfl, ?_⟩
    simp only [List.forall_mem_cons, List.not_mem_nil, false_implies, implies_true, and_true,
      Field.complete_nodes]
    exact ⟨htargets, hvalues, hb⟩

lemma complete_autoescape : Gives Node.Complete (autoescape self search) := by
  refine gives_then fun tag => gives_bind (gives_phrase complete_expression) fun value hv => ?_
  refine gives_bind (complete_body hself _) fun b hb => gives_pure ?_
  simpa [Kind.fieldNames, hv] using hb

/-- The body of a linted region is complete, as part of the template and by itself. -/
lemma complete_lintRegion : Gives AllComplete (lintRegion self search) := by
  refine gives_then fun tag => gives_numbered fun ordinal => ?_
  refine gives_bind (complete_body hself _) fun b hb => ?_
  refine gives_bind (gives_close fun opened => Region.complete_root.2 hb) fun _ _ => ?_
  exact gives_pure hb

lemma complete_inspectRegion : Gives AllComplete (inspectRegion self search) := by
  refine gives_then fun tag => gives_bind (complete_body hself _) fun b hb => ?_
  refine gives_bind (gives_close fun opened => Region.complete_root.2 hb) fun _ _ => ?_
  exact gives_pure allComplete_nil

end

lemma complete_extend : Gives Node.Complete extend := by
  refine gives_then fun tag => gives_bind (gives_phrase complete_expression) fun value hv => ?_
  exact gives_pure (by simp [Kind.fieldNames, hv])

lemma complete_print : Gives Node.Complete print := by
  refine gives_then fun tag => ?_
  refine gives_bind (gives_phrase (yields_items fun _ => complete_expression)) fun es hes => ?_
  exact gives_pure (by simpa [Kind.fieldNames] using hes)

lemma complete_inclusion : Gives Node.Complete inclusion := by
  refine gives_then fun tag => gives_bind (gives_phrase complete_expression) fun template ht => ?_
  refine gives_then fun ignoreMissing => gives_then fun withContext => gives_pure ?_
  simp [Kind.fieldNames, ht]

lemma complete_importModule : Gives Node.Complete importModule := by
  refine gives_then fun tag => gives_bind (gives_phrase complete_expression) fun template ht => ?_
  refine gives_then fun _ => gives_then fun target => gives_then fun withContext => gives_pure ?_
  simp [Kind.fieldNames, ht]

lemma complete_fromImport : Gives Node.Complete fromImport := by
  refine gives_then fun tag => gives_bind (gives_phrase complete_expression) fun template ht => ?_
  refine gives_then fun _ => gives_bind (gives_phrase complete_importedNames) fun r hr => ?_
  refine gives_pure (complete_nodeAt.2 ⟨rfl, ?_⟩)
  simpa only [List.forall_mem_cons, List.not_mem_nil, false_implies, implies_true, and_true,
    Field.complete_node, Field.complete_value] using ⟨ht, hr⟩

lemma complete_doStatement : Gives Node.Complete doStatement := by
  refine gives_then fun tag => gives_bind (gives_phrase (complete_tuple _)) fun value hv => ?_
  exact gives_pure (by simp [Kind.fieldNames, hv])

lemma complete_loopControl (tag : String) : Gives Node.Complete (loopControl tag) := by
  refine gives_then fun t => gives_pure ?_
  split <;> simp [Kind.fieldNames]

lemma complete_debug : Gives Node.Complete debug :=
  gives_then fun tag => gives_pure (by simp [Kind.fieldNames])

include hself

lemma complete_standardStatement {tag : String} {p : Reading Node}
    (h : standardStatement? self search tag = some p) : Gives Node.Complete p := by
  unfold standardStatement? at h
  split at h <;> cases h
  · exact complete_loop hself
  · exact complete_branch hself
  · exact complete_block hself
  · exact complete_extend
  · exact complete_print
  · exact complete_macroDef hself
  · exact complete_inclusion
  · exact complete_fromImport
  · exact complete_importModule
  · exact complete_assignment hself
  · exact complete_withScope hself
  · exact complete_autoescape hself
  · exact complete_callBlock hself
  · exact complete_filterBlock hself

lemma complete_extensionStatement (e : Extension) (tag : String) :
    Gives AllComplete (extensionStatement self search e tag) := by
  have hone : ∀ {p : Reading Node}, Gives Node.Complete p →
      Gives AllComplete (List.singleton <$> p) := fun hp =>
    gives_map hp fun n hn => allComplete_singleton.2 hn
  cases e with
  | lint => exact complete_lintRegion hself
  | inspect => exact complete_inspectRegion hself
  | doStatement => exact hone complete_doStatement
  | loopControls => exact hone (complete_loopControl tag)
  | debug => exact hone complete_debug

lemma complete_statement (es : List Extension) :
    Gives AllComplete (statement self search es) := by
  refine gives_then fun t => ?_
  split
  · dsimp only
    split
    · next p hp =>
      exact gives_map (complete_standardStatement hself hp) fun n hn => allComplete_singleton.2 hn
    · split
      · exact complete_extensionStatement hself _ _
      · exact gives_fail _ _
  · exact gives_fail _ _

omit hself

lemma complete_output {pieces : List Node} (h : AllComplete pieces) :
    AllComplete (output pieces) := by
  cases pieces with
  | nil => exact allComplete_nil
  | cons n ns =>
    refine allComplete_singleton.2 (Node.complete_mk.2 ⟨rfl, ?_⟩)
    simpa only [List.forall_mem_cons, List.not_mem_nil, false_implies, implies_true, and_true,
      Field.complete_nodes] using List.forall_mem_cons.1 h

/-- The nodes of a template or of a body are complete. -/
lemma complete_nodes (es : List Extension) (rounds : Nat) {pieces : List Node}
    (h : AllComplete pieces) (search : Search) :
    Gives (fun r => AllComplete r.1) (nodes es rounds pieces search) := by
  induction rounds generalizing pieces search with
  | zero => exact gives_failHere _
  | succ rounds ih =>
    refine gives_then fun t => ?_
    split
    · next s hs =>
      refine gives_then fun _ => ih (h.append ?_) search
      split
      · exact allComplete_nil
      · exact allComplete_singleton.2 (by simp [Kind.fieldNames])
    · refine gives_then fun _ => gives_bind (gives_phrase (complete_tuple _)) fun e he => ?_
      exact gives_then fun _ => ih (h.append (allComplete_singleton.2 he)) search
    · refine gives_then fun _ => gives_then fun shape => ?_
      refine gives_ite (gives_pure (complete_output h)) ?_
      refine gives_bind (complete_statement (ih allComplete_nil) es) fun ns hns => ?_
      refine gives_then fun _ => gives_bind (ih allComplete_nil search) fun r hr => gives_pure ?_
      exact ((complete_output h).append hns).append hr
    · exact gives_pure (complete_output h)
    · exact gives_fail _ _

lemma complete_template (es : List Extension) : Gives Node.Complete (template es) := by
  refine gives_get fun s => ?_
  refine gives_bind (complete_nodes es _ allComplete_nil _) fun r hr => gives_pure ?_
  simpa [Kind.fieldNames] using hr

end Reading

/-- **What is read is complete**: the tree of a template, if it can be read, and in any case its
regions that have been closed. -/
theorem complete_readFrom (es : List Extension) (st : Stream) (opened : Nat) :
    (∀ r ∈ (readFrom es st opened).regions, r.root.Complete) ∧
      ∀ n, (readFrom es st opened).tree = .ok n → n.Complete :=
  Reading.complete_template es ⟨st, [], opened⟩ (by simp [Progress.Complete])

lemma complete_read (d : Dialect) (es : List Extension) (source : String) :
    (∀ r ∈ (read d es source).regions, r.root.Complete) ∧
      ∀ n, (read d es source).tree = .ok n → n.Complete := by
  unfold read
  cases Stream.start d source with
  | ok st => exact complete_readFrom es st 0
  | error f => simp

end TemplateLint.Grammar
