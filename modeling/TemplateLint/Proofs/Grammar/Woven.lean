import TemplateLint.Proofs.Grammar.Statement

/-!
What statements are woven of.

But for the tags of regions, a statement is put together from phrases, which only go on in the
stream, and from nodes that are read up to a tag. So what phrases and nodes preserve, statements
preserve. Main statement: `Woven.preserves`.
-/

namespace TemplateLint.Grammar.Reading

open Phrasing

variable {α β : Type}

/-- If a phrase is read, then the stream has gone on. -/
def Leading (q : Phrasing α) : Prop := ∀ st a st', q.run st = .ok (a, st') → st.Leads st'

lemma leading_of_inside {q : Phrasing α} (h : Inside Anywhere q) : Leading q :=
  fun st a st' hr => (h st a st' trivial hr).leads

lemma leading_next : Leading next := fun _ _ _ hr => .single (run_next_eq_ok hr).2

lemma leading_skip : Leading skip := fun _ _ _ hr => .single (run_skip_eq_ok hr)

lemma leading_expect (w : Wanted) : Leading (expect w) := by
  intro st t st' hr
  obtain ⟨t', st₁, ht, h⟩ := Phrasing.run_bind_eq_ok hr
  cases ht
  split at h
  · exact leading_next _ _ _ h
  · cases h

lemma leading_fail (cause : Cause) (line : Nat) : Leading (fail cause line : Phrasing α) := by
  intro st a st' hr
  cases hr

lemma leading_failHere (cause : Cause) : Leading (failHere cause : Phrasing α) := by
  intro st a st' hr
  cases hr

/-- Readings that are put together from phrases and from nodes that `self` reads. -/
inductive Woven (self : Search → Reading (List Node × Nat)) : {α : Type} → Reading α → Prop
  | pure {α : Type} (a : α) : Woven self (Pure.pure a : Reading α)
  | phrase {α : Type} {q : Phrasing α} (h : Leading q) : Woven self (liftM q : Reading α)
  | progress : Woven self (getThe Progress)
  | nodes (search : Search) : Woven self (self search)
  | bind {α β : Type} {p : Reading α} {f : α → Reading β} (hp : Woven self p)
      (hf : ∀ a, Woven self (f a)) : Woven self (p >>= f)

/-- If a reading succeeds where something holds, it holds afterwards. -/
def Preserves (I : Progress → Prop) (p : Reading α) : Prop :=
  ∀ s a s', I s → p.run s = (.ok a, s') → I s'

variable {self : Search → Reading (List Node × Nat)} {search : Search} {p : Reading α}

/-- **What phrases and nodes preserve, readings that are woven of them preserve.** -/
theorem Woven.preserves {I : Progress → Prop} (h : Woven self p)
    (hphrase : ∀ s st, I s → s.stream.Leads st → I { s with stream := st })
    (hself : ∀ search, Preserves I (self search)) : Preserves I p := by
  induction h with
  | pure a =>
    intro s b s' hs hr
    cases hr
    exact hs
  | phrase hq =>
    intro s a s' hs hr
    obtain ⟨st, h₁, rfl⟩ := run_phrase_eq_ok hr
    exact hphrase s st hs (hq _ _ _ h₁)
  | progress =>
    intro s a s' hs hr
    cases hr
    exact hs
  | nodes search => exact hself search
  | bind _ _ ihp ihf =>
    intro s b s' hs hr
    obtain ⟨a, s₁, h₁, h₂⟩ := run_bind_eq_ok hr
    exact ihf a s₁ b s' (ihp s a s₁ hs h₁) h₂

/-! ### Ways to put readings together -/

lemma woven_map {g : α → β} (hp : Woven self p) : Woven self (g <$> p) := by
  rw [← bind_pure_comp]
  exact .bind hp fun a => .pure _

lemma woven_ite {c : Prop} [Decidable c] {q : Reading α} (hp : Woven self p)
    (hq : Woven self q) : Woven self (if c then p else q) := by
  split
  · exact hp
  · exact hq

lemma woven_inside {q : Phrasing α} (h : Inside Anywhere q) : Woven self (liftM q : Reading α) :=
  .phrase (leading_of_inside h)

lemma woven_next : Woven self (liftM next : Reading Terminal) := .phrase leading_next

lemma woven_fail (cause : Cause) (line : Nat) :
    Woven self (liftM (fail cause line : Phrasing α)) := .phrase (leading_fail cause line)

lemma woven_failHere (cause : Cause) : Woven self (liftM (failHere cause : Phrasing α)) :=
  .phrase (leading_failHere cause)

lemma woven_bodyUpTo (ends : List String) : Woven self (bodyUpTo self search ends) := by
  refine .bind (woven_inside (inside_skipIf (by simp))) fun _ => ?_
  refine .bind (.phrase (leading_expect _)) fun opening => ?_
  refine .bind (.nodes _) fun r => ?_
  refine .bind (woven_inside (inside_shape fun _ => inside_pure _)) fun s => ?_
  exact woven_ite (.bind (woven_failHere _) fun _ => .pure _) (.pure _)

lemma woven_body (tag : String) : Woven self (body self search tag) := by
  refine .bind (woven_bodyUpTo _) fun b => ?_
  exact .bind (.phrase leading_skip) fun _ => .pure b

/-! ### Statements -/

lemma woven_loop : Woven self (loop self search) := by
  refine .bind woven_next fun tag => ?_
  refine .bind (woven_inside (inside_target _ _)) fun target => ?_
  refine .bind (.phrase (leading_expect _)) fun _ => ?_
  refine .bind (woven_inside (inside_tuple _)) fun items => ?_
  refine .bind (woven_inside (inside_skipIf (by simp))) fun hasTest => ?_
  refine woven_ite (.bind (woven_map (woven_inside inside_expression)) fun test => ?_)
    (.bind (.pure none) fun test => ?_)
  all_goals
    refine .bind (woven_inside (inside_skipIf (by simp))) fun isRecursive => ?_
    refine .bind (woven_bodyUpTo _) fun b => ?_
    refine .bind woven_next fun ending => ?_
    refine woven_ite (.bind (.pure []) fun other => .pure _) ?_
    refine .bind (woven_body _) fun b' => ?_
    exact .bind (.pure _) fun other => .pure _

lemma woven_branches (rounds : Nat) : Woven self (branches self search rounds) := by
  induction rounds with
  | zero => exact woven_failHere _
  | succ rounds ih =>
    refine .bind (woven_inside (inside_tuple _)) fun test => ?_
    refine .bind (woven_bodyUpTo _) fun b => ?_
    refine .bind woven_next fun ending => ?_
    refine woven_ite ?_ (woven_ite ?_ (.pure _))
    · refine .bind (woven_inside (inside_line fun n => inside_pure n)) fun start => ?_
      exact .bind ih fun more => .pure _
    · exact .bind (woven_body _) fun b' => .pure _

lemma woven_branch : Woven self (branch self search) := by
  refine .bind woven_next fun tag => ?_
  refine .bind .progress fun s => ?_
  exact .bind (woven_branches _) fun more => .pure _

lemma woven_block : Woven self (block self search) := by
  refine .bind woven_next fun tag => ?_
  refine .bind (woven_inside inside_expectName) fun name => ?_
  refine .bind (woven_inside (inside_skipIf (by simp))) fun isScoped => ?_
  refine .bind (woven_inside (inside_skipIf (by simp))) fun isRequired => ?_
  refine .bind (woven_inside (inside_at? fun s => inside_pure _)) fun hasHyphen => ?_
  refine woven_ite (.bind (woven_failHere _) fun _ => ?_) ?_
  all_goals
    refine .bind (woven_body _) fun b => ?_
    refine woven_ite (.bind (woven_failHere _) fun _ => ?_) ?_
    all_goals
      exact .bind (woven_inside (inside_skipIf (by simp))) fun _ => .pure _

lemma woven_extend : Woven self extend := by
  refine .bind woven_next fun tag => ?_
  exact .bind (woven_inside inside_expression) fun value => .pure _

lemma woven_print : Woven self print := by
  refine .bind woven_next fun tag => ?_
  exact .bind (woven_inside (inside_items fun _ => inside_expression)) fun es => .pure _

lemma woven_macroDef : Woven self (macroDef self search) := by
  refine .bind woven_next fun tag => ?_
  refine .bind (woven_inside inside_nameTarget) fun name => ?_
  refine .bind (woven_inside inside_signature) fun parameters => ?_
  exact .bind (woven_body _) fun b => .pure _

lemma woven_callBlock : Woven self (callBlock self search) := by
  refine .bind woven_next fun tag => ?_
  refine .bind (woven_inside (inside_at? fun s => inside_pure _)) fun hasSignature => ?_
  refine woven_ite (.bind (woven_inside inside_signature) fun parameters => ?_)
    (.bind (.pure _) fun parameters => ?_)
  all_goals
    refine .bind (woven_inside inside_expression) fun call => ?_
    refine woven_ite (.bind (woven_fail _ _) fun _ => ?_) ?_
    all_goals
      exact .bind (woven_body _) fun b => .pure _

lemma woven_filterBlock : Woven self (filterBlock self search) := by
  refine .bind woven_next fun tag => ?_
  refine .bind (woven_inside (Expression.inside_filter inside_phrase none)) fun first => ?_
  refine .bind (woven_inside (Expression.inside_piped inside_phrase _)) fun filter => ?_
  exact .bind (woven_body _) fun b => .pure _

lemma woven_inclusion : Woven self inclusion := by
  refine .bind woven_next fun tag => ?_
  refine .bind (woven_inside inside_expression) fun template => ?_
  refine .bind (woven_inside inside_ignores) fun ignoreMissing => ?_
  exact .bind (woven_inside (inside_contextAfterName _)) fun withContext => .pure _

lemma woven_importModule : Woven self importModule := by
  refine .bind woven_next fun tag => ?_
  refine .bind (woven_inside inside_expression) fun template => ?_
  refine .bind (.phrase (leading_expect _)) fun _ => ?_
  refine .bind (woven_inside inside_nameTarget) fun target => ?_
  exact .bind (woven_inside (inside_contextAfterName _)) fun withContext => .pure _

lemma woven_fromImport : Woven self fromImport := by
  refine .bind woven_next fun tag => ?_
  refine .bind (woven_inside inside_expression) fun template => ?_
  refine .bind (.phrase (leading_expect _)) fun _ => ?_
  exact .bind (woven_inside inside_importedNames) fun names => .pure _

lemma woven_assignment : Woven self (assignment self search) := by
  refine .bind woven_next fun tag => ?_
  refine .bind (woven_inside (inside_target _ _)) fun target => ?_
  refine .bind (woven_inside (inside_skipIf (by simp))) fun hasValue => woven_ite ?_ ?_
  · exact .bind (woven_inside (inside_tuple _)) fun value => .pure _
  · refine .bind (woven_inside (Expression.inside_piped inside_phrase _)) fun filter => ?_
    exact .bind (woven_body _) fun b => .pure _

lemma woven_withScope : Woven self (withScope self search) := by
  refine .bind woven_next fun tag => ?_
  refine .bind (woven_inside (inside_items fun _ => ?_)) fun ps => ?_
  · refine inside_bind (inside_target _ _) fun target => ?_
    refine inside_bind (inside_expect (by simp)) fun _ => ?_
    exact inside_bind inside_expression fun value => inside_pure _
  · exact .bind (woven_body _) fun b => .pure _

lemma woven_autoescape : Woven self (autoescape self search) := by
  refine .bind woven_next fun tag => ?_
  refine .bind (woven_inside inside_expression) fun value => ?_
  exact .bind (woven_body _) fun b => .pure _

lemma woven_doStatement : Woven self doStatement := by
  refine .bind woven_next fun tag => ?_
  exact .bind (woven_inside (inside_tuple _)) fun value => .pure _

lemma woven_loopControl (tag : String) : Woven self (loopControl tag) :=
  .bind woven_next fun _ => .pure _

lemma woven_debug : Woven self debug := .bind woven_next fun _ => .pure _

/-- **The statements that every template may use are woven** of phrases and of nodes. -/
theorem woven_standardStatement {tag : String} {p : Reading Node}
    (h : standardStatement? self search tag = some p) : Woven self p := by
  unfold standardStatement? at h
  split at h <;> cases h
  · exact woven_loop
  · exact woven_branch
  · exact woven_block
  · exact woven_extend
  · exact woven_print
  · exact woven_macroDef
  · exact woven_inclusion
  · exact woven_fromImport
  · exact woven_importModule
  · exact woven_assignment
  · exact woven_withScope
  · exact woven_autoescape
  · exact woven_callBlock
  · exact woven_filterBlock

/-- The tags of extensions are woven, too, but for those of regions. -/
theorem woven_extensionStatement {e : Extension} (hlint : e ≠ .lint) (hinspect : e ≠ .inspect)
    (tag : String) : Woven self (extensionStatement self search e tag) := by
  cases e with
  | lint => exact absurd rfl hlint
  | inspect => exact absurd rfl hinspect
  | doStatement => exact woven_map woven_doStatement
  | loopControls => exact woven_map (woven_loopControl tag)
  | debug => exact woven_map woven_debug

end TemplateLint.Grammar.Reading
