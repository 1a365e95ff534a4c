import TemplateLint.Grammar.Expression
import TemplateLint.Proofs.Progress.Phrase

/-!
Expressions make progress: one lemma for each rule, under the assumption that the parts that are
expressions again do so behind its first terminal. An expression takes a terminal at least, so the
number of terminals bounds its depth. Main statements: `progresses_read` and `progresses_phrase`.
-/

namespace TemplateLint.Grammar

namespace Expression

open Phrasing

variable {m : Nat} {P : Stream → Prop} {self : Phrase → Phrasing Node}

/-- The parts of a rule that starts with fewer than `m` terminals make progress behind the first of
them. -/
def Parts (self : Phrase → Phrasing Node) (m : Nat) : Prop :=
  ∀ k ≤ m - 1, ∀ p, Progresses k Anywhere (self p) fun _ => k - 1

lemma Parts.mono (h : Parts self m) {k : Nat} (hk : k ≤ m) : Parts self k := fun j hj =>
  h j (Nat.le_trans hj (Nat.sub_le_sub_right hk 1))

lemma progresses_dottedName : Progresses m P dottedName fun _ => m - 1 := by
  refine progresses_bind progresses_expectName fun first => ?_
  refine progresses_rounds (fun k _ name => progresses_ifSkip ?_ ?_) _
  · exact progresses_bind progresses_expectName fun _ => progresses_pure (Nat.sub_le _ _)
  · exact progresses_pure (Nat.le_refl k)

/-- Operands with joints between them; the end is no joint. -/
lemma progresses_chain {operand : Phrasing Node} {joint : Shape → Option Kind}
    (ho : ∀ k ≤ m, Progresses k Anywhere operand fun _ => k - 1)
    (hj : ∀ s kind, joint s = some kind → s ≠ .finish) :
    Progresses m P (chain operand joint) fun _ => m - 1 := by
  refine progresses_line fun start => progresses_bind (ho m (Nat.le_refl m)).anywhere fun _ => ?_
  refine progresses_rounds (fun k hk x => progresses_shape fun s => ?_) _
  split
  · next kind hkind =>
    refine progresses_bind (progresses_skip_shape (hj s kind hkind)) fun _ => ?_
    refine progresses_bind (ho _ (by omega)) fun right => ?_
    exact progresses_line fun _ => progresses_pure (Nat.sub_le _ _)
  · exact progresses_pure (Nat.le_refl k)

/-- Only in parentheses may a tuple be empty. -/
lemma progresses_tuple {item : Phrasing Node}
    (h : ∀ k ≤ m, Progresses k Anywhere item fun _ => k - 1) (parenthesised : Bool) :
    Progresses m P (tuple item parenthesised) fun _ => if parenthesised then m else m - 1 := by
  -- as soon as there is an item, a terminal has been taken
  let B : List Node × Bool × Nat → Nat := fun r => if r.1.isEmpty then m else m - 1
  refine progresses_line fun start => progresses_bind (Q := B)
    (progresses_loop B (fun k x hk => ?_) (Nat.le_refl m)) fun r => ?_
  · obtain ⟨items, many, start⟩ := x
    have hkm : k ≤ m := Nat.le_trans hk (by dsimp only [B]; split <;> omega)
    -- what follows the comma, of which there is none before the first item
    have hmore : ∀ {P' : Stream → Prop} (j : Nat), j ≤ k → j ≤ B (items, many, start) →
        Progresses j P' (do
          if endsTuple (← shape) then return .inr (items, many, start)
          let items := items ++ [← item]
          if ← at? (.op .comma) then return .inl (items, true, ← line)
          else return .inr (items, many, start))
        (Sum.elim (fun s => min (k - 1) (B s)) B) := by
      intro P' j hjk hj
      refine progresses_shape fun s => progresses_ite (fun _ => progresses_pure hj) fun _ => ?_
      refine progresses_bind (h j (by omega)).anywhere fun e => progresses_at? fun s => ?_
      have hB : ∀ rest, B (items ++ [e], rest) = m - 1 := fun rest => by simp [B]
      refine progresses_ite (fun _ => progresses_line fun n => progresses_pure ?_) fun _ =>
        progresses_pure ?_
      · simp only [Sum.elim_inl, hB]
        omega
      · simp only [Sum.elim_inr, hB]
        omega
    dsimp only
    refine progresses_ite (fun hitems => progresses_bind progresses_expect fun _ => ?_) fun _ =>
      hmore k (Nat.le_refl k) hk
    exact hmore (k - 1) (Nat.sub_le _ _) (Nat.le_trans (Nat.sub_le _ _) hk)
  · obtain ⟨items, many, line⟩ := r
    dsimp only
    split
    · refine progresses_ite (fun _ => progresses_pure ?_) fun _ => progresses_pure ?_
      all_goals cases parenthesised <;> simp [B]
    · refine progresses_ite (fun hp => progresses_pure ?_) fun _ =>
        progresses_shape fun s => progresses_failHere rfl
      simp [B, hp]
    · next hone hnone =>
      refine progresses_pure ?_
      have : items ≠ [] := fun h => hnone h
      cases parenthesised <;> simp [B, this]

lemma progresses_strings (first : String) : Progresses m P (strings first) fun _ => m := by
  refine progresses_rounds (fun k _ s => progresses_shape fun shape => ?_) first
  split
  · exact progresses_bind (progresses_skip_shape (by simp)) fun _ =>
      progresses_pure (Nat.le_refl _)
  · exact progresses_pure (Nat.le_refl k)

/-- A name with an equals sign behind it is looked at twice. -/
lemma progresses_keywordAhead {β : Type} {s : Shape} {f : Bool → Phrasing β} {R : β → Nat}
    (h : ∀ b, Progresses m P (f b) R) : Progresses m P (argument.keywordAhead s >>= f) R := by
  unfold argument.keywordAhead
  split
  · simp only [bind_assoc, pure_bind]
    exact progresses_look fun t => (h _).weaken fun _ hst => hst.1
  · exact h false

lemma ne_finish_of_isWord {s : Shape} {words : List String} (h : s.isWord words = true) :
    s ≠ .finish := by
  rintro rfl
  cases h

lemma progresses_comparator :
    Progresses m P comparator fun c => if c.isSome then m - 1 else m := by
  refine progresses_shape fun s => ?_
  dsimp only
  split
  · next name hs =>
    refine progresses_bind (progresses_skip_shape ?_) fun _ => progresses_pure (Nat.le_refl _)
    rintro rfl
    cases hs
  · refine progresses_ite (fun hnot => progresses_look fun t => ?_) fun _ =>
      progresses_pure (Nat.le_refl m)
    refine progresses_ite (fun _ => ?_) fun _ => progresses_pure (Nat.le_refl m)
    refine progresses_bind (progresses_skip fun st hst => ?_) fun _ => ?_
    · rw [Onward, hst.1.2]
      exact ne_finish_of_isWord hnot
    · exact progresses_bind progresses_skip_anywhere fun _ => progresses_pure (Nat.le_refl _)

section Rules

variable (hself : Parts self m)

include hself

lemma progresses_list : Progresses m P (list self) fun _ => m - 1 := by
  refine progresses_bind progresses_expect fun opening => ?_
  refine progresses_bind (progresses_items fun k hk _ => hself k hk _) fun es => ?_
  exact progresses_bind progresses_expect fun _ => progresses_pure (Nat.sub_le _ _)

lemma progresses_pair {k : Nat} (hk : k ≤ m - 1) :
    Progresses k P (pair self) fun _ => k - 1 := by
  refine progresses_bind (hself k hk _).anywhere fun key => ?_
  refine progresses_bind progresses_expect fun _ => ?_
  exact progresses_bind (hself _ (by omega) _) fun value => progresses_pure (by omega)

lemma progresses_dict : Progresses m P (dict self) fun _ => m - 1 := by
  refine progresses_bind progresses_expect fun opening => ?_
  refine progresses_bind (progresses_items fun k hk _ => progresses_pair hself hk) fun es => ?_
  exact progresses_bind progresses_expect fun _ => progresses_pure (Nat.sub_le _ _)

lemma progresses_primary (attributes : Bool) :
    Progresses m P (primary self attributes) fun _ => m - 1 := by
  refine progresses_current fun t => ?_
  split
  · next s hs =>
    refine progresses_bind (progresses_skip_current (by simp [hs])) fun _ => ?_
    split
    · exact progresses_pure (Nat.le_refl _)
    · dsimp only
      refine progresses_ite (fun _ => progresses_ifSkip ?_ ?_) fun _ =>
        progresses_pure (Nat.le_refl _)
      · exact progresses_bind progresses_expectName fun _ => progresses_pure (by omega)
      · exact progresses_pure (Nat.le_refl _)
  · next s hs =>
    refine progresses_bind (progresses_skip_current (by simp [hs])) fun _ => ?_
    exact progresses_bind (progresses_strings s) fun _ => progresses_pure (Nat.le_refl _)
  · next n hs =>
    exact progresses_bind (progresses_skip_current (by simp [hs])) fun _ =>
      progresses_pure (Nat.le_refl _)
  · next s hs =>
    exact progresses_bind (progresses_skip_current (by simp [hs])) fun _ =>
      progresses_pure (Nat.le_refl _)
  · next hs =>
    refine progresses_bind (progresses_skip_current (by simp [hs])) fun _ => ?_
    refine progresses_bind (progresses_tuple (fun k hk => hself k hk _) true) fun e => ?_
    exact progresses_bind progresses_expect fun _ => progresses_pure (Nat.sub_le _ _)
  · exact progresses_list hself
  · exact progresses_dict hself
  · exact progresses_fail rfl _

lemma progresses_bound {k : Nat} (hk : k ≤ m - 1) : Progresses k P (bound self) fun _ => k := by
  refine progresses_shape fun s => ?_
  split
  · exact progresses_pure (Nat.le_refl k)
  · exact progresses_pure (Nat.le_refl k)
  · exact progresses_pure (Nat.le_refl k)
  · exact progresses_bind (hself k hk _).anywhere fun _ => progresses_pure (Nat.sub_le _ _)

lemma progresses_boundAtEnd {k : Nat} (hk : k ≤ m - 1) :
    Progresses k P (subscribed.boundAtEnd self) fun _ => k := by
  refine progresses_shape fun s => ?_
  split
  · exact progresses_pure (Nat.le_refl k)
  · exact progresses_pure (Nat.le_refl k)
  · exact progresses_bind (hself k hk _).anywhere fun _ => progresses_pure (Nat.sub_le _ _)

lemma progresses_subscribed {k : Nat} (hk : k ≤ m - 1) :
    Progresses k P (subscribed self) fun _ => k - 1 := by
  -- the parts of a slice behind its first colon
  have hslice : ∀ start (first : Option Node) j, j ≤ k - 1 → Progresses j Anywhere (do
      let stop ← bound self
      let step ← if ← skipIf (.op .colon) then subscribed.boundAtEnd self else pure none
      return nodeAt start .slice [.ofOption first, .ofOption stop, .ofOption step])
      fun _ => k - 1 := by
    intro start first j hj
    refine progresses_bind (progresses_bound hself (by omega)) fun stop => ?_
    refine progresses_ifSkip ?_ ?_
    · exact progresses_bind (progresses_boundAtEnd hself (by omega)) fun _ =>
        progresses_pure (by omega)
    · exact progresses_pure_bind (progresses_pure (by omega))
  refine progresses_line fun start => progresses_at? fun s => ?_
  dsimp only
  refine progresses_ite (fun hcolon => progresses_pure_bind ?_) fun _ =>
    progresses_bind (progresses_map (hself k hk _).anywhere) fun first => ?_
  · refine progresses_skipIf_of_fits (fun st hst => ?_) (hslice start none _ (Nat.le_refl _))
    rw [hst.2, hcolon]
  · refine progresses_bind progresses_skipIf_le fun b => ?_
    split
    · exact progresses_pure (Nat.le_refl _)
    · exact hslice start first _ (Nat.le_refl _)

lemma progresses_subscript (e : Node) (hP : ∀ st, P st → Onward st) :
    Progresses m P (subscript self e) fun _ => m - 1 := by
  refine progresses_bind (progresses_next hP) fun opening => ?_
  split
  · refine progresses_bind progresses_next_anywhere fun t => ?_
    split
    · exact progresses_pure (Nat.le_refl _)
    · exact progresses_pure (Nat.le_refl _)
    · exact progresses_fail rfl _
  · refine progresses_bind (progresses_items fun k hk _ => progresses_subscribed hself hk)
      fun args => ?_
    exact progresses_bind progresses_expect fun _ => progresses_pure (Nat.sub_le _ _)

lemma progresses_argument (start : Nat) (a : Arguments) {k : Nat} (hk : k ≤ m - 1) :
    Progresses k P (argument self start a) fun _ => k - 1 := by
  refine progresses_shape fun s => ?_
  split
  · refine progresses_guard rfl (progresses_bind (progresses_skip_shape (by simp)) fun _ => ?_)
    exact progresses_bind (hself _ (by omega) _) fun _ => progresses_pure (by omega)
  · refine progresses_guard rfl (progresses_bind (progresses_skip_shape (by simp)) fun _ => ?_)
    exact progresses_bind (hself _ (by omega) _) fun _ => progresses_pure (by omega)
  · refine progresses_keywordAhead fun b => ?_
    split
    · refine progresses_guard rfl (progresses_bind (progresses_skip_shape (by simp)) fun _ => ?_)
      refine progresses_bind progresses_skip_anywhere fun _ => ?_
      exact progresses_bind (hself _ (by omega) _) fun value => progresses_pure (by omega)
    · exact progresses_guard rfl (progresses_bind (hself k hk _).anywhere fun _ =>
        progresses_pure (Nat.le_refl _))

lemma progresses_arguments : Progresses m P (arguments self) fun _ => m - 1 := by
  refine progresses_bind progresses_expect fun opening => ?_
  refine progresses_bind (progresses_rounds (fun k hk a => ?_) _) fun a => ?_
  · have hmore : ∀ j ≤ k, Progresses j Anywhere
        (do return (.inl (← argument self opening.line a) : Arguments ⊕ Arguments))
        (Sum.elim (fun _ => k - 1) fun _ => k) := fun j hj =>
      progresses_bind (progresses_argument hself _ a (Nat.le_trans hj hk)) fun _ =>
        progresses_pure (Nat.sub_le_sub_right hj 1)
    refine progresses_at? fun s => progresses_ite (fun _ => progresses_pure (Nat.le_refl k))
      fun _ => ?_
    dsimp only
    refine progresses_ite (fun _ => progresses_bind progresses_expect fun _ => ?_) fun _ =>
      (hmore k (Nat.le_refl k)).anywhere
    exact progresses_at? fun s => progresses_ite (fun _ => progresses_pure (Nat.sub_le k 1))
      fun _ => (hmore _ (Nat.sub_le k 1)).anywhere
  · exact progresses_bind progresses_expect fun _ => progresses_pure (Nat.sub_le _ _)

lemma progresses_argumentsIf : Progresses m P (argumentsIf self) fun _ => m :=
  progresses_at? fun _ => progresses_ite
    (fun _ => (progresses_arguments hself).mono fun _ => Nat.sub_le m 1) fun _ =>
    progresses_pure (Nat.le_refl m)

lemma progresses_call (e : Node) : Progresses m P (call self e) fun _ => m - 1 :=
  progresses_line fun _ => progresses_bind (progresses_arguments hself) fun _ =>
    progresses_pure (Nat.le_refl _)

lemma progresses_withSuffixes (e : Node) : Progresses m P (withSuffixes self e) fun _ => m := by
  refine progresses_rounds (fun k hk e => progresses_shape fun s => ?_) e
  have hparts := hself.mono hk
  split
  · refine progresses_bind (progresses_subscript hparts e fun st hst => ?_) fun _ =>
      progresses_pure (Nat.le_refl _)
    simp [Onward, hst.2]
  · refine progresses_bind (progresses_subscript hparts e fun st hst => ?_) fun _ =>
      progresses_pure (Nat.le_refl _)
    simp [Onward, hst.2]
  · exact progresses_bind (progresses_call hparts e) fun _ => progresses_pure (Nat.le_refl _)
  · exact progresses_pure (Nat.le_refl k)

lemma progresses_filter (e : Option Node) : Progresses m P (filter self e) fun _ => m - 1 := by
  refine progresses_bind progresses_dottedName fun name => ?_
  exact progresses_bind (progresses_argumentsIf (hself.mono (Nat.sub_le m 1))) fun a =>
    progresses_pure (Nat.le_refl _)

lemma progresses_piped (e : Option Node) : Progresses m P (piped self e) fun _ => m := by
  refine progresses_rounds (fun k hk e => progresses_ifSkip ?_ ?_) e
  · exact progresses_bind (progresses_filter (hself.mono (by omega)) e) fun _ =>
      progresses_pure (Nat.sub_le _ _)
  · exact progresses_pure (Nat.le_refl k)

lemma progresses_test (e : Node) (hP : ∀ st, P st → Onward st) :
    Progresses m P (test self e) fun _ => m - 1 := by
  refine progresses_line fun start => progresses_bind (progresses_skip hP) fun _ => ?_
  refine progresses_bind progresses_skipIf_le fun negated => ?_
  refine progresses_bind progresses_dottedName fun name => ?_
  have hparts := hself.mono (show m - 1 - 1 ≤ m by omega)
  dsimp only
  refine progresses_at? fun s => progresses_ite (fun _ => ?_) fun _ => progresses_shape fun s => ?_
  · exact progresses_bind (progresses_arguments hparts) fun a => progresses_pure (by omega)
  · refine progresses_ite (fun _ => progresses_at? fun s => ?_) fun _ => ?_
    · refine progresses_ite (fun _ => progresses_failHere_bind rfl) fun _ => ?_
      refine progresses_bind (progresses_primary hparts false) fun e => ?_
      refine progresses_bind (progresses_withSuffixes (hparts.mono (Nat.sub_le _ _)) e)
        fun arg => ?_
      exact progresses_pure_bind (progresses_pure (by omega))
    · exact progresses_pure_bind (progresses_pure (by omega))

lemma progresses_withFilters (e : Node) : Progresses m P (withFilters self e) fun _ => m := by
  refine progresses_rounds (fun k hk e => progresses_shape fun s => ?_) e
  have hparts := hself.mono hk
  split
  · refine progresses_bind (progresses_skip_shape (by simp)) fun _ => ?_
    exact progresses_bind (progresses_filter (hparts.mono (Nat.sub_le k 1)) _) fun _ =>
      progresses_pure (Nat.sub_le _ _)
  · refine progresses_bind (progresses_test hparts e fun st hst => ?_) fun _ =>
      progresses_pure (Nat.le_refl _)
    simp [Onward, hst.2]
  · exact progresses_bind (progresses_call hparts e) fun _ => progresses_pure (Nat.le_refl _)
  · exact progresses_pure (Nat.le_refl k)

lemma progresses_unary (filters : Bool) :
    Progresses m P (unary self filters) fun _ => m - 1 := by
  refine progresses_current fun t => ?_
  dsimp only
  have hrest : ∀ j ≤ m - 1, ∀ e, Progresses j Anywhere (do
      let e ← withSuffixes self e
      if filters then withFilters self e else return e) fun _ => m - 1 := by
    intro j hj e
    have hparts := hself.mono (show j ≤ m by omega)
    refine progresses_bind (progresses_withSuffixes hparts e) fun e => progresses_ite (fun _ => ?_)
      fun _ => progresses_pure hj
    exact (progresses_withFilters hparts e).mono fun _ => hj
  split
  · next hs =>
    refine progresses_bind (progresses_skip_current (by simp [hs])) fun _ => ?_
    refine progresses_bind (hself _ (Nat.le_refl _) _) fun e => ?_
    exact progresses_pure_bind (hrest _ (Nat.sub_le _ _) _)
  · next hs =>
    refine progresses_bind (progresses_skip_current (by simp [hs])) fun _ => ?_
    refine progresses_bind (hself _ (Nat.le_refl _) _) fun e => ?_
    exact progresses_pure_bind (hrest _ (Nat.sub_le _ _) _)
  · exact progresses_bind (progresses_primary hself false) (hrest _ (Nat.le_refl _))

lemma progresses_power : Progresses m P (power self) fun _ => m - 1 := by
  refine progresses_chain (fun k hk => progresses_unary (hself.mono hk) true) fun s kind hs => ?_
  rintro rfl
  cases hs

lemma progresses_product : Progresses m P (product self) fun _ => m - 1 := by
  refine progresses_chain (fun k hk => progresses_power (hself.mono hk)) fun s kind hs => ?_
  rintro rfl
  cases hs

lemma progresses_concat : Progresses m P (concat self) fun _ => m - 1 := by
  refine progresses_line fun start => progresses_bind (progresses_product hself) fun first => ?_
  refine progresses_bind (progresses_rounds (fun k hk es => progresses_ifSkip ?_ ?_) _)
    fun rest => ?_
  · exact progresses_bind (progresses_product (hself.mono (by omega))) fun e =>
      progresses_pure (Nat.sub_le _ _)
  · exact progresses_pure (Nat.le_refl k)
  · split <;> exact progresses_pure (Nat.le_refl _)

lemma progresses_sum : Progresses m P (sum self) fun _ => m - 1 := by
  refine progresses_chain (fun k hk => progresses_concat (hself.mono hk)) fun s kind hs => ?_
  rintro rfl
  cases hs

lemma progresses_compare : Progresses m P (compare self) fun _ => m - 1 := by
  refine progresses_bind (progresses_sum hself) fun first => ?_
  refine progresses_bind (progresses_rounds (fun k hk ops => ?_) _) fun ops => ?_
  · refine progresses_bind progresses_comparator fun c => ?_
    cases c with
    | some name =>
      exact progresses_bind (progresses_sum (hself.mono (Nat.le_trans (Nat.sub_le k 1) (by omega))))
        fun e => progresses_pure (Nat.sub_le _ _)
    | none => exact progresses_pure (Nat.le_refl k)
  · split
    · exact progresses_pure (Nat.le_refl _)
    · exact progresses_line fun _ => progresses_pure (Nat.le_refl _)

lemma progresses_negation : Progresses m P (negation self) fun _ => m - 1 := by
  refine progresses_line fun start => progresses_ifSkip ?_ (progresses_compare hself)
  exact progresses_bind (hself _ (Nat.le_refl _) _) fun e => progresses_pure (Nat.sub_le _ _)

lemma progresses_conjunction : Progresses m P (conjunction self) fun _ => m - 1 := by
  refine progresses_chain (fun k hk => progresses_negation (hself.mono hk)) fun s kind hs => ?_
  rintro rfl
  cases hs

lemma progresses_disjunction : Progresses m P (disjunction self) fun _ => m - 1 := by
  refine progresses_chain (fun k hk => progresses_conjunction (hself.mono hk)) fun s kind hs => ?_
  rintro rfl
  cases hs

lemma progresses_conditional : Progresses m P (conditional self) fun _ => m - 1 := by
  refine progresses_line fun start => progresses_bind (progresses_disjunction hself) fun first => ?_
  refine progresses_rounds (fun k hk x => progresses_ifSkip ?_ ?_) _
  · refine progresses_bind (progresses_disjunction (hself.mono (by omega))) fun condition => ?_
    dsimp only
    refine progresses_ifSkip ?_ ?_
    · refine progresses_bind (progresses_map (hself _ (by omega) _)) fun other => ?_
      exact progresses_line fun _ => progresses_pure (by dsimp only [Sum.elim]; omega)
    · exact progresses_pure_bind (progresses_line fun _ => progresses_pure (Nat.sub_le _ _))
  · exact progresses_pure (Nat.le_refl k)

lemma progresses_rule (p : Phrase) : Progresses m P (rule self p) fun _ => m - 1 := by
  cases p with
  | expression => exact progresses_conditional hself
  | unconditional => exact progresses_disjunction hself
  | negation => exact progresses_negation hself
  | signed => exact progresses_unary hself false

end Rules

/-- **Expressions make progress**, if their depth is bounded by the terminals that are left. -/
theorem progresses_read {depth : Nat} (hm : m ≤ depth) (p : Phrase) :
    Progresses m P (read depth p) fun _ => m - 1 := by
  induction depth generalizing m P p with
  | zero => exact fun st _ hleft => absurd hleft (by omega)
  | succ depth ih => exact progresses_rule (fun k hk p => ih (by omega) p) p

end Expression

namespace Phrasing

open Expression

variable {m : Nat} {P : Stream → Prop}

/-- **A phrase of a template makes progress**: the bound of its stream is a depth that suffices. -/
theorem progresses_phrase (p : Phrase) : Progresses m P (phrase p) fun _ => m - 1 := by
  intro st hP hm hb
  obtain ⟨herror, hok⟩ := progresses_read (P := P) (Nat.succ_le_of_lt hb) p st hP
    (Nat.lt_succ_self _) hb
  refine ⟨herror, fun a st' hr => ⟨(hok a st' hr).1, ?_⟩⟩
  have := (hok a st' hr).2
  dsimp only at this ⊢
  omega

lemma parts_phrase (m : Nat) : Parts phrase m := fun _ _ p => progresses_phrase p

lemma progresses_nameTarget : Progresses m P nameTarget fun _ => m - 1 := by
  refine progresses_bind progresses_expectName fun name => ?_
  dsimp only
  exact progresses_ite (fun _ => progresses_fail_bind rfl _) fun _ =>
    progresses_pure (Nat.le_refl _)

lemma progresses_target (attributes : Bool) (role : String) :
    Progresses m P (target attributes role) fun _ => m - 1 := by
  refine progresses_bind (progresses_tuple (fun k _ =>
    progresses_primary (parts_phrase k) attributes) false) fun e => ?_
  exact progresses_ite (fun _ => progresses_pure (Nat.le_refl _)) fun _ => progresses_fail rfl _

end Phrasing

end TemplateLint.Grammar
