import TemplateLint.Grammar.Expression
import TemplateLint.Proofs.Complete.Tree
import TemplateLint.Proofs.Grammar.Inside

/-!
Expressions are complete: the nodes that are read get values for all fields of their kind. There is
one lemma for each rule, under the assumption that the parts that are expressions again are
complete. Main statement: `complete_read`.
-/

namespace TemplateLint.Grammar

/-! ### Phrases -/

namespace Phrasing

variable {α β : Type}

/-- What a phrase gives, if it succeeds. -/
def Yields (Q : α → Prop) (p : Phrasing α) : Prop := ∀ st a st', p.run st = .ok (a, st') → Q a

variable {Q : α → Prop} {R : β → Prop} {p : Phrasing α} {f : α → Phrasing β}

lemma Yields.mono {Q' : α → Prop} (h : Yields Q p) (hQ : ∀ a, Q a → Q' a) : Yields Q' p :=
  fun st a st' hr => hQ a (h st a st' hr)

lemma yields_pure {a : α} (h : Q a) : Yields Q (pure a : Phrasing α) := by
  intro st b st' hr
  cases hr
  exact h

lemma yields_fail (cause : Cause) (line : Nat) : Yields Q (fail cause line : Phrasing α) := by
  intro st b st' hr
  cases hr

lemma yields_failHere (cause : Cause) : Yields Q (failHere cause : Phrasing α) := by
  intro st b st' hr
  cases hr

/-- What comes first hands on what it gives. -/
lemma yields_bind (hp : Yields Q p) (hf : ∀ a, Q a → Yields R (f a)) : Yields R (p >>= f) := by
  intro st b st' hr
  obtain ⟨a, st₁, h₁, h₂⟩ := run_bind_eq_ok hr
  exact hf a (hp st a st₁ h₁) st₁ b st' h₂

/-- What comes first may give anything. -/
lemma yields_then (hf : ∀ a, Yields R (f a)) : Yields R (p >>= f) := by
  intro st b st' hr
  obtain ⟨a, st₁, -, h₂⟩ := run_bind_eq_ok hr
  exact hf a st₁ b st' h₂

lemma yields_map {g : α → β} (hp : Yields Q p) (hg : ∀ a, Q a → R (g a)) :
    Yields R (g <$> p) := by
  rw [← bind_pure_comp]
  exact yields_bind hp fun a ha => yields_pure (hg a ha)

lemma yields_ite {c : Prop} [Decidable c] {q : Phrasing α} (hp : Yields Q p) (hq : Yields Q q) :
    Yields Q (if c then p else q) := by
  split
  · exact hp
  · exact hq

/-- A loop whose steps keep `S` and end with `Q`. -/
lemma yields_loop {σ : Type} {step : σ → Phrasing (σ ⊕ α)} (S : σ → Prop)
    (h : ∀ s, S s → Yields (Sum.elim S Q) (step s)) {s : σ} (hs : S s) :
    Yields Q (loop step s) := by
  have hrounds : ∀ rounds s, S s → Yields Q (loopFor step rounds s) := by
    intro rounds
    induction rounds with
    | zero => exact fun s _ => yields_failHere _
    | succ rounds ih =>
      intro s hs
      refine yields_bind (h s hs) fun r hr => ?_
      cases r with
      | inl s' => exact ih s' hr
      | inr a => exact yields_pure hr
  intro st a st' hr
  exact hrounds st.bound s hs st a st' hr

/-- Items, each of which may depend on those in front of it. -/
lemma yields_items {close : Wanted} {trailing : Bool} {item : List α → Phrasing α}
    (h : ∀ xs, Yields Q (item xs)) :
    Yields (fun xs => ∀ x ∈ xs, Q x) (items close trailing item) := by
  refine yields_loop (fun xs => ∀ x ∈ xs, Q x) (fun xs hxs => ?_) (by simp)
  have hitem : Yields (Sum.elim (fun xs => ∀ x ∈ xs, Q x) (fun xs => ∀ x ∈ xs, Q x))
      (do return (.inl (xs ++ [← item xs]) : List α ⊕ List α)) := by
    refine yields_bind (h xs) fun x hx => yields_pure ?_
    simpa [or_imp, forall_and] using ⟨hxs, hx⟩
  refine yields_then fun _ => yields_ite (yields_pure hxs) ?_
  refine yields_ite (yields_then fun _ => ?_) hitem
  exact yields_ite (yields_then fun _ => yields_ite (yields_pure hxs) hitem) hitem

end Phrasing

/-! ### Expressions -/

namespace Expression

open Phrasing

@[simp] lemma complete_nodeAt {line : Nat} {k : Kind} {fs : List Field} :
    (nodeAt line k fs).Complete ↔ fs.length = k.fieldNames.length ∧ ∀ f ∈ fs, f.Complete :=
  Node.complete_mk

/-- Operators with two operands are complete with a left and a right one. -/
lemma complete_chain {operand : Phrasing Node} {joint : Shape → Option Kind}
    (ho : Yields Node.Complete operand)
    (hj : ∀ s k, joint s = some k → k.fieldNames.length = 2) :
    Yields Node.Complete (chain operand joint) := by
  refine yields_then fun start => yields_bind ho fun first hfirst => ?_
  refine yields_loop (fun x => x.1.Complete) (fun x hx => ?_) hfirst
  refine yields_then fun s => ?_
  split
  · next k hk =>
    refine yields_then fun _ => yields_bind ho fun right hright => ?_
    refine yields_then fun _ => yields_pure ?_
    exact complete_nodeAt.2 ⟨(hj s k hk).symm, by simp [hx, hright]⟩
  · exact yields_pure hx

lemma complete_tuple {item : Phrasing Node} (h : Yields Node.Complete item)
    (parenthesised : Bool) : Yields Node.Complete (tuple item parenthesised) := by
  refine yields_then fun start => ?_
  refine yields_bind (Q := fun r => ∀ n ∈ r.1, n.Complete)
    (yields_loop (fun x => ∀ n ∈ x.1, n.Complete) (fun x hx => ?_) (by simp)) fun r hr => ?_
  · obtain ⟨items, many, start⟩ := x
    dsimp only
    refine yields_ite (yields_then fun _ => ?_) ?_
    all_goals
      refine yields_then fun _ => yields_ite (yields_pure hx) ?_
      refine yields_bind h fun e he => yields_then fun _ => ?_
      have hitems : ∀ n ∈ items ++ [e], n.Complete := by
        simpa [or_imp, forall_and] using ⟨hx, he⟩
      exact yields_ite (yields_then fun _ => yields_pure hitems) (yields_pure hitems)
  · obtain ⟨items, many, line⟩ := r
    dsimp only at hr ⊢
    split
    · refine yields_ite (yields_pure ?_) (yields_pure (hr _ List.mem_cons_self))
      simpa [Kind.fieldNames] using hr
    · refine yields_ite (yields_pure (by simp [Kind.fieldNames])) ?_
      exact yields_then fun _ => yields_failHere _
    · refine yields_pure ?_
      simpa [Kind.fieldNames] using hr

/-- A part that is complete or missing. -/
@[simp] def Optional (n : Option Node) : Prop := ∀ m ∈ n, m.Complete

lemma complete_map_some {p : Phrasing Node} (h : Yields Node.Complete p) :
    Yields Optional (some <$> p) :=
  yields_map h fun e he => by simpa using he

/-- Arguments of which all nodes are complete. -/
def Arguments.Complete (a : Arguments) : Prop := ∀ f ∈ a.fields, f.Complete

lemma Arguments.complete_iff {a : Arguments} :
    a.Complete ↔ (∀ n ∈ a.args, n.Complete) ∧ (∀ n ∈ a.kwargs, n.Complete) ∧
      (∀ n ∈ a.dynArgs, n.Complete) ∧ ∀ n ∈ a.dynKwargs, n.Complete := by
  simp [Complete, fields]

variable {self : Phrase → Phrasing Node} (hself : ∀ p, Yields Node.Complete (self p))

include hself

lemma complete_list : Yields Node.Complete (list self) := by
  refine yields_then fun opening => ?_
  refine yields_bind (yields_items fun _ => hself _) fun es hes => ?_
  refine yields_then fun _ => yields_pure ?_
  simpa [Kind.fieldNames] using hes

lemma complete_pair : Yields Node.Complete (pair self) := by
  refine yields_bind (hself _) fun key hkey => yields_then fun _ => ?_
  refine yields_bind (hself _) fun value hvalue => yields_pure ?_
  simp [Kind.fieldNames, hkey, hvalue]

lemma complete_dict : Yields Node.Complete (dict self) := by
  refine yields_then fun opening => ?_
  refine yields_bind (yields_items fun _ => complete_pair hself) fun ps hps => ?_
  refine yields_then fun _ => yields_pure ?_
  simpa [Kind.fieldNames] using hps

lemma complete_primary (attributes : Bool) : Yields Node.Complete (primary self attributes) := by
  refine yields_then fun t => ?_
  split
  · refine yields_then fun _ => ?_
    split
    · exact yields_pure (by simp [Kind.fieldNames])
    · dsimp only
      have hname : ∀ s, (nodeAt t.line .name [.text s, .text "load"]).Complete := fun s => by
        simp [Kind.fieldNames]
      refine yields_ite (yields_then fun _ => ?_) (yields_pure (hname _))
      refine yields_ite (yields_then fun _ => yields_pure ?_) (yields_pure (hname _))
      simp [Kind.fieldNames]
  · exact yields_then fun _ => yields_then fun _ => yields_pure (by simp [Kind.fieldNames])
  · exact yields_then fun _ => yields_pure (by simp [Kind.fieldNames])
  · exact yields_then fun _ => yields_pure (by simp [Kind.fieldNames])
  · refine yields_then fun _ => yields_bind (complete_tuple (hself _) true) fun e he => ?_
    exact yields_then fun _ => yields_pure he
  · exact complete_list hself
  · exact complete_dict hself
  · exact yields_fail _ _

/-- A slice may lack any of its three parts. -/
lemma complete_bound : Yields Optional (bound self) := by
  refine yields_then fun s => ?_
  split
  · exact yields_pure (by simp)
  · exact yields_pure (by simp)
  · exact yields_pure (by simp)
  · exact yields_bind (hself _) fun e he => yields_pure (by simpa using he)

lemma complete_boundAtEnd : Yields Optional (subscribed.boundAtEnd self) := by
  refine yields_then fun s => ?_
  split
  · exact yields_pure (by simp)
  · exact yields_pure (by simp)
  · exact yields_bind (hself _) fun e he => yields_pure (by simpa using he)

lemma complete_subscribed : Yields Node.Complete (subscribed self) := by
  refine yields_then fun start => yields_then fun startsWithColon => ?_
  dsimp only
  refine yields_ite (yields_bind (Q := Optional) (yields_pure (by simp)) fun first hfirst => ?_)
    (yields_bind (complete_map_some (hself _)) fun first hfirst => ?_)
  all_goals
    refine yields_then fun hasColon => ?_
    split
    · exact yields_pure (hfirst _ rfl)
    · refine yields_bind (complete_bound hself) fun stop hstop => yields_then fun more => ?_
      refine yields_ite (yields_bind (complete_boundAtEnd hself) fun step hstep => ?_)
        (yields_bind (Q := Optional) (yields_pure (by simp)) fun step hstep => ?_)
      all_goals exact yields_pure (by simpa [Kind.fieldNames] using ⟨hfirst, hstop, hstep⟩)

lemma complete_subscript {e : Node} (he : e.Complete) :
    Yields Node.Complete (subscript self e) := by
  refine yields_then fun opening => ?_
  split
  · refine yields_then fun t => ?_
    split
    · exact yields_pure (by simp [Kind.fieldNames, he])
    · exact yields_pure (by simp [Kind.fieldNames, he])
    · exact yields_fail _ _
  · refine yields_bind (yields_items fun _ => complete_subscribed hself) fun args hargs => ?_
    refine yields_then fun _ => yields_pure ?_
    split
    · simpa [Kind.fieldNames, he] using hargs
    · simpa [Kind.fieldNames, he] using hargs

/-- An argument goes to the arguments in front of it, which are complete already. -/
lemma complete_argument (start : Nat) {a : Arguments} (ha : a.Complete) :
    Yields Arguments.Complete (argument self start a) := by
  rw [Arguments.complete_iff] at ha
  obtain ⟨hargs, hkwargs, hdynArgs, hdynKwargs⟩ := ha
  refine yields_then fun s => ?_
  split
  · refine yields_then fun _ => yields_then fun _ => ?_
    refine yields_bind (hself _) fun e he => yields_pure ?_
    exact Arguments.complete_iff.2 ⟨hargs, hkwargs, by simpa using he, hdynKwargs⟩
  · refine yields_then fun _ => yields_then fun _ => ?_
    refine yields_bind (hself _) fun e he => yields_pure ?_
    exact Arguments.complete_iff.2 ⟨hargs, hkwargs, hdynArgs, by simpa using he⟩
  · refine yields_then fun isKeyword => ?_
    split
    · refine yields_then fun _ => yields_then fun _ => yields_then fun _ => ?_
      refine yields_bind (hself _) fun value hvalue => yields_pure ?_
      refine Arguments.complete_iff.2 ⟨hargs, ?_, hdynArgs, hdynKwargs⟩
      simpa [Kind.fieldNames, or_imp, forall_and] using ⟨hkwargs, hvalue⟩
    · refine yields_then fun _ => yields_bind (hself _) fun e he => yields_pure ?_
      refine Arguments.complete_iff.2 ⟨?_, hkwargs, hdynArgs, hdynKwargs⟩
      simpa [or_imp, forall_and] using ⟨hargs, he⟩

lemma complete_arguments : Yields Arguments.Complete (arguments self) := by
  refine yields_then fun opening => ?_
  refine yields_bind (Q := Arguments.Complete)
    (yields_loop Arguments.Complete (fun a ha => ?_) (by simp [Arguments.complete_iff]))
    fun a ha => yields_then fun _ => yields_pure ha
  have hmore : Yields (Sum.elim Arguments.Complete Arguments.Complete)
      (do return (.inl (← argument self opening.line a) : Arguments ⊕ Arguments)) :=
    yields_bind (complete_argument hself _ ha) fun _ ha' => yields_pure ha'
  refine yields_then fun _ => yields_ite (yields_pure ha) ?_
  refine yields_ite (yields_then fun _ => yields_then fun _ => ?_) hmore
  exact yields_ite (yields_pure ha) hmore

lemma complete_argumentsIf : Yields Arguments.Complete (argumentsIf self) := by
  refine yields_then fun _ => yields_ite (complete_arguments hself) (yields_pure ?_)
  simp [Arguments.complete_iff]

omit hself in
/-- Four fields of a kind are for arguments. -/
lemma Arguments.Complete.nodeAt {a : Arguments} (ha : a.Complete) (line : Nat) (k : Kind)
    (fs : List Field) (hk : k.fieldNames.length = fs.length + 4) (hfs : ∀ f ∈ fs, f.Complete) :
    (nodeAt line k (fs ++ a.fields)).Complete := by
  refine complete_nodeAt.2 ⟨by rw [List.length_append, hk]; rfl, fun f hf => ?_⟩
  exact (List.mem_append.1 hf).elim (hfs f) (ha f)

lemma complete_call {e : Node} (he : e.Complete) : Yields Node.Complete (call self e) := by
  refine yields_then fun start => yields_bind (complete_arguments hself) fun a ha => ?_
  exact yields_pure (ha.nodeAt start .call [.node e] rfl (by simpa using he))

lemma complete_withSuffixes {e : Node} (he : e.Complete) :
    Yields Node.Complete (withSuffixes self e) := by
  refine yields_loop Node.Complete (fun e he => yields_then fun s => ?_) he
  split
  · exact yields_bind (complete_subscript hself he) fun _ hn => yields_pure hn
  · exact yields_bind (complete_subscript hself he) fun _ hn => yields_pure hn
  · exact yields_bind (complete_call hself he) fun _ hn => yields_pure hn
  · exact yields_pure he

/-- The first filter of a filtered block has nothing to filter yet. -/
lemma complete_filter {e : Option Node} (he : Optional e) :
    Yields Node.Complete (filter self e) := by
  refine yields_then fun name => yields_bind (complete_argumentsIf hself) fun a ha => ?_
  refine yields_pure (ha.nodeAt name.2 .filter [.ofOption e, .text name.1] rfl ?_)
  simpa using he

lemma complete_piped {e : Option Node} (he : Optional e) : Yields Optional (piped self e) := by
  refine yields_loop Optional (fun e he => yields_then fun _ => ?_) he
  refine yields_ite (yields_bind (complete_filter hself he) fun n hn => ?_) (yields_pure he)
  exact yields_pure (by simpa using hn)

/-- A test without brackets has at most one argument. -/
lemma complete_test {e : Node} (he : e.Complete) : Yields Node.Complete (test self e) := by
  refine yields_then fun start => yields_then fun _ => yields_then fun negated => ?_
  refine yields_then fun name => ?_
  have htest : ∀ a : Arguments, a.Complete → Node.Complete
      (if negated then nodeAt start .not [.node
        (nodeAt start .test (.node e :: .text name.1 :: a.fields))]
      else nodeAt start .test (.node e :: .text name.1 :: a.fields)) := by
    intro a ha
    have htested := ha.nodeAt start .test [.node e, .text name.1] rfl (by simpa using he)
    split
    · simpa [Kind.fieldNames] using htested
    · exact htested
  dsimp only
  refine yields_then fun _ => yields_ite ?_ (yields_then fun _ => yields_ite ?_ ?_)
  · exact yields_bind (complete_arguments hself) fun a ha => yields_pure (htest a ha)
  · refine yields_then fun _ => yields_ite (yields_then fun _ => ?_) ?_
    all_goals
      refine yields_bind (complete_primary hself false) fun e he => ?_
      refine yields_bind (complete_withSuffixes hself he) fun arg harg => ?_
      refine yields_bind (Q := Arguments.Complete) (yields_pure ?_) fun a ha => ?_
      · simpa [Arguments.complete_iff] using harg
      · exact yields_pure (htest a ha)
  · refine yields_bind (Q := Arguments.Complete) (yields_pure ?_) fun a ha => ?_
    · simp [Arguments.complete_iff]
    · exact yields_pure (htest a ha)

lemma complete_withFilters {e : Node} (he : e.Complete) :
    Yields Node.Complete (withFilters self e) := by
  refine yields_loop Node.Complete (fun e he => yields_then fun s => ?_) he
  split
  · refine yields_then fun _ => yields_bind (complete_filter hself (by simpa using he)) ?_
    exact fun _ hn => yields_pure hn
  · exact yields_bind (complete_test hself he) fun _ hn => yields_pure hn
  · exact yields_bind (complete_call hself he) fun _ hn => yields_pure hn
  · exact yields_pure he

lemma complete_unary (filters : Bool) : Yields Node.Complete (unary self filters) := by
  refine yields_then fun t => ?_
  dsimp only
  have hrest : ∀ e : Node, e.Complete → Yields Node.Complete (do
      let e ← withSuffixes self e
      if filters then withFilters self e else return e) := fun e he =>
    yields_bind (complete_withSuffixes hself he) fun e he =>
      yields_ite (complete_withFilters hself he) (yields_pure he)
  split
  · refine yields_then fun _ => yields_bind (hself _) fun e he => ?_
    exact yields_bind (yields_pure (by simpa [Kind.fieldNames] using he)) hrest
  · refine yields_then fun _ => yields_bind (hself _) fun e he => ?_
    exact yields_bind (yields_pure (by simpa [Kind.fieldNames] using he)) hrest
  · exact yields_bind (complete_primary hself false) hrest

lemma complete_power : Yields Node.Complete (power self) := by
  refine complete_chain (complete_unary hself true) fun s k hk => ?_
  split at hk <;> cases hk
  rfl

lemma complete_product : Yields Node.Complete (product self) := by
  refine complete_chain (complete_power hself) fun s k hk => ?_
  split at hk <;> cases hk <;> rfl

lemma complete_concat : Yields Node.Complete (concat self) := by
  refine yields_then fun start => yields_bind (complete_product hself) fun first hfirst => ?_
  refine yields_bind (Q := fun es => ∀ e ∈ es, e.Complete)
    (yields_loop (fun es => ∀ e ∈ es, e.Complete) (fun es hes => ?_) (by simp)) fun rest hrest => ?_
  · refine yields_then fun _ => yields_ite ?_ (yields_pure hes)
    refine yields_bind (complete_product hself) fun e he => yields_pure ?_
    simpa [or_imp, forall_and] using ⟨hes, he⟩
  · split
    · exact yields_pure hfirst
    · exact yields_pure (by simpa [Kind.fieldNames] using ⟨hfirst, hrest⟩)

lemma complete_sum : Yields Node.Complete (sum self) := by
  refine complete_chain (complete_concat hself) fun s k hk => ?_
  split at hk <;> cases hk <;> rfl

lemma complete_compare : Yields Node.Complete (compare self) := by
  refine yields_bind (complete_sum hself) fun first hfirst => ?_
  refine yields_bind (Q := fun es => ∀ e ∈ es, e.Complete)
    (yields_loop (fun es => ∀ e ∈ es, e.Complete) (fun ops hops => ?_) (by simp)) fun ops hops => ?_
  · refine yields_then fun c => ?_
    split
    · refine yields_bind (complete_sum hself) fun e he => yields_pure ?_
      simpa [Kind.fieldNames, or_imp, forall_and] using ⟨hops, he⟩
    · exact yields_pure hops
  · split
    · exact yields_pure hfirst
    · exact yields_then fun _ => yields_pure (by simpa [Kind.fieldNames, hfirst] using hops)

lemma complete_negation : Yields Node.Complete (negation self) := by
  refine yields_then fun start => yields_then fun _ => yields_ite ?_ (complete_compare hself)
  exact yields_bind (hself _) fun e he => yields_pure (by simpa [Kind.fieldNames] using he)

lemma complete_conjunction : Yields Node.Complete (conjunction self) := by
  refine complete_chain (complete_negation hself) fun s k hk => ?_
  split at hk <;> cases hk
  rfl

lemma complete_disjunction : Yields Node.Complete (disjunction self) := by
  refine complete_chain (complete_conjunction hself) fun s k hk => ?_
  split at hk <;> cases hk
  rfl

lemma complete_conditional : Yields Node.Complete (conditional self) := by
  refine yields_then fun start => yields_bind (complete_disjunction hself) fun first hfirst => ?_
  refine yields_loop (fun x => x.1.Complete) (fun x hx => yields_then fun _ => ?_) hfirst
  refine yields_ite ?_ (yields_pure hx)
  refine yields_bind (complete_disjunction hself) fun condition hcondition => ?_
  dsimp only
  refine yields_then fun _ => yields_ite
    (yields_bind (complete_map_some (hself _)) fun other hother => ?_)
    (yields_bind (Q := Optional) (yields_pure (by simp)) fun other hother => ?_)
  all_goals
    refine yields_then fun _ => yields_pure ?_
    simpa [Kind.fieldNames, hcondition, hx] using hother

/-- The phrases of a round, given those of the round before. -/
lemma complete_rule (p : Phrase) : Yields Node.Complete (rule self p) := by
  cases p with
  | expression => exact complete_conditional hself
  | unconditional => exact complete_disjunction hself
  | negation => exact complete_negation hself
  | signed => exact complete_unary hself false

omit hself in
/-- **Expressions are complete.** -/
theorem complete_read (depth : Nat) (p : Phrase) : Yields Node.Complete (read depth p) := by
  induction depth generalizing p with
  | zero => exact yields_failHere _
  | succ depth ih => exact complete_rule ih p

end Expression

end TemplateLint.Grammar
