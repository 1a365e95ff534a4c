import TemplateLint.Grammar.Expression
import TemplateLint.Proofs.Grammar.Inside

/-!
Expressions stay inside of their tag: one lemma for each rule, under the assumption that the parts
that are expressions again do so. Main statement: `inside_read`.
-/

namespace TemplateLint.Grammar.Expression

open Phrasing

variable {P : Stream → Prop} {self : Phrase → Phrasing Node}

lemma inside_dottedName : Inside P dottedName := by
  refine inside_bind inside_expectName fun first => ?_
  refine inside_loop (fun name => ?_) _
  refine inside_bind (inside_skipIf (by simp)) fun b => inside_ite (fun _ => ?_) fun _ => ?_
  · exact inside_bind inside_expectName fun _ => inside_pure _
  · exact inside_pure _

/-- Operands with joints between them; no edge of a tag is a joint. -/
lemma inside_chain {operand : Phrasing Node} {joint : Shape → Option Kind}
    (ho : Inside Anywhere operand) (hj : ∀ s k, joint s = some k → s.isEdge = false) :
    Inside P (chain operand joint) := by
  refine inside_line fun start => inside_bind ho.anywhere fun first => ?_
  refine inside_loop (fun x => ?_) _
  refine inside_shape fun s => ?_
  split
  · next k hk =>
    refine inside_skip_shape (hj s k hk) (inside_bind ho fun right => ?_)
    exact inside_line fun _ => inside_pure _
  · exact inside_pure _

lemma inside_tuple {item : Phrasing Node} (h : Inside Anywhere item) (parenthesised : Bool) :
    Inside P (tuple item parenthesised) := by
  refine inside_line fun start => inside_bind (inside_loop (fun x => ?_) _) fun r => ?_
  · obtain ⟨items, many, start⟩ := x
    dsimp only
    refine inside_ite (fun _ => inside_bind (inside_expect (by simp)) fun _ => ?_) fun _ => ?_
    all_goals
      refine inside_shape fun s => inside_ite (fun _ => inside_pure _) fun _ => ?_
      refine inside_bind h.anywhere fun e => ?_
      refine inside_at? fun s => inside_ite (fun _ => ?_) fun _ => ?_
      · exact inside_line fun _ => inside_pure _
      · exact inside_pure _
  · obtain ⟨items, many, line⟩ := r
    dsimp only
    split
    · exact inside_ite (fun _ => inside_pure _) fun _ => inside_pure _
    · refine inside_ite (fun _ => inside_pure _) fun _ => ?_
      exact inside_shape fun s => inside_failHere _
    · exact inside_pure _

variable (hself : ∀ p, Inside Anywhere (self p))

include hself

lemma inside_list : Inside P (list self) := by
  refine inside_bind (inside_expect (by simp)) fun opening => ?_
  refine inside_bind (inside_items fun _ => hself _) fun es => ?_
  exact inside_bind (inside_expect (by simp)) fun _ => inside_pure _

lemma inside_pair : Inside P (pair self) := by
  refine inside_bind (hself _).anywhere fun key => ?_
  refine inside_bind (inside_expect (by simp)) fun _ => ?_
  exact inside_bind (hself _) fun value => inside_pure _

lemma inside_dict : Inside P (dict self) := by
  refine inside_bind (inside_expect (by simp)) fun opening => ?_
  refine inside_bind (inside_items fun _ => inside_pair hself) fun es => ?_
  exact inside_bind (inside_expect (by simp)) fun _ => inside_pure _

omit hself in
lemma inside_strings (first : String) : Inside P (strings first) := by
  refine inside_loop (fun s => inside_shape fun shape => ?_) first
  split
  · exact inside_skip_shape rfl (inside_pure _)
  · exact inside_pure _

/-- What stands in brackets is taken up to the closing bracket, which is no edge of a tag. -/
lemma inside_primary (attributes : Bool) : Inside P (primary self attributes) := by
  refine inside_current fun t => ?_
  split
  · next s hs =>
    refine inside_skip_current (by rw [hs]; rfl) ?_
    split
    · exact inside_pure _
    · dsimp only
      refine inside_ite (fun _ => ?_) fun _ => inside_pure _
      refine inside_bind (inside_skipIf (by simp)) fun b => ?_
      refine inside_ite (fun _ => ?_) fun _ => inside_pure _
      exact inside_bind inside_expectName fun _ => inside_pure _
  · next s hs =>
    refine inside_skip_current (by rw [hs]; rfl) ?_
    exact inside_bind (inside_strings s) fun _ => inside_pure _
  · next n hs => exact inside_skip_current (by rw [hs]; rfl) (inside_pure _)
  · next s hs => exact inside_skip_current (by rw [hs]; rfl) (inside_pure _)
  · next hs =>
    refine inside_skip_current (by rw [hs]; rfl) ?_
    refine inside_bind (inside_tuple (hself _) true) fun e => ?_
    exact inside_bind (inside_expect (by simp)) fun _ => inside_pure _
  · exact inside_list hself
  · exact inside_dict hself
  · exact inside_fail _ _

lemma inside_bound : Inside P (bound self) := by
  refine inside_shape fun s => ?_
  split
  · exact inside_pure _
  · exact inside_pure _
  · exact inside_pure _
  · exact inside_bind (hself _).anywhere fun _ => inside_pure _

lemma inside_boundAtEnd : Inside P (subscribed.boundAtEnd self) := by
  refine inside_shape fun s => ?_
  split
  · exact inside_pure _
  · exact inside_pure _
  · exact inside_bind (hself _).anywhere fun _ => inside_pure _

lemma inside_subscribed : Inside P (subscribed self) := by
  refine inside_line fun start => inside_at? fun s => ?_
  dsimp only
  refine inside_ite (fun _ => inside_bind (inside_pure _) fun first => ?_)
    fun _ => inside_bind (inside_map (hself _).anywhere) fun first => ?_
  all_goals
    refine inside_bind (inside_skipIf (by simp)) fun b => ?_
    split
    · exact inside_pure _
    · refine inside_bind (inside_bound hself) fun stop => ?_
      refine inside_bind (inside_skipIf (by simp)) fun b => ?_
      refine inside_ite (fun _ => ?_) fun _ => inside_bind (inside_pure _) fun _ => inside_pure _
      exact inside_bind (inside_boundAtEnd hself) fun step => inside_pure _

/-- A point or a bracket is taken unseen, so the current terminal must not be an edge. -/
lemma inside_subscript (e : Node) (hP : ∀ st, P st → st.current.shape.isEdge = false) :
    Inside P (subscript self e) := by
  refine inside_next hP fun opening => ?_
  split
  · -- the terminal behind the point is taken before it is looked at
    intro st b st' _ hr
    obtain ⟨t, st₁, h₁, h₂⟩ := run_bind_eq_ok hr
    obtain ⟨rfl, hadvance⟩ := run_next_eq_ok h₁
    split at h₂
    · next s hs =>
      cases h₂
      exact Stream.within_advance hadvance (by rw [hs]; rfl)
    · next n hs =>
      cases h₂
      exact Stream.within_advance hadvance (by rw [hs]; rfl)
    · cases h₂
  · refine inside_bind (inside_items fun _ => inside_subscribed hself) fun args => ?_
    exact inside_bind (inside_expect (by simp)) fun _ => inside_pure _

omit hself in
/-- A name with an equals sign behind it can be taken together with the sign. -/
lemma inside_keywordAhead {β : Type} {s : Shape} {f : Bool → Phrasing β}
    (h : ∀ b, Inside (fun st => P st ∧
      (b = true → ∀ t, st.peek = .ok t → t.shape.isEdge = false)) (f b)) :
    Inside P (argument.keywordAhead s >>= f) := by
  unfold argument.keywordAhead
  split
  · simp only [bind_assoc, pure_bind]
    refine inside_look fun t => (h _).mono fun st hst => ⟨hst.1, fun hfits t' ht' => ?_⟩
    rw [hst.2] at ht'
    cases ht'
    exact isEdge_of_fits hfits (by simp)
  · exact (h false).mono fun st hst => ⟨hst, by simp⟩

/-- An argument after a name is the only place at which two terminals are taken at once. -/
lemma inside_argument (start : Nat) (a : Arguments) : Inside P (argument self start a) := by
  refine inside_shape fun s => ?_
  split
  · refine inside_guard (inside_skip_shape rfl ?_)
    exact inside_bind (hself _) fun _ => inside_pure _
  · refine inside_guard (inside_skip_shape rfl ?_)
    exact inside_bind (hself _) fun _ => inside_pure _
  · refine inside_keywordAhead fun b => ?_
    split
    · refine inside_guard (inside_skip_skip (fun st hst => ?_) (fun st t hst => hst.2 rfl t) ?_)
      · rw [hst.1.2]
        rfl
      · exact inside_bind (hself _) fun value => inside_pure _
    · exact inside_guard (inside_bind (hself _).anywhere fun _ => inside_pure _)

lemma inside_arguments : Inside P (arguments self) := by
  refine inside_bind (inside_expect (by simp)) fun opening => ?_
  refine inside_bind (inside_loop (fun a => ?_) _) fun a => ?_
  · refine inside_at? fun s => inside_ite (fun _ => inside_pure _) fun _ => ?_
    dsimp only
    have hmore : Inside Anywhere
        (do return (.inl (← argument self opening.line a) : Arguments ⊕ Arguments)) :=
      inside_bind (inside_argument hself _ a) fun _ => inside_pure _
    refine inside_ite (fun _ => ?_) fun _ => hmore.anywhere
    refine inside_bind (inside_expect (by simp)) fun _ => ?_
    exact inside_at? fun s => inside_ite (fun _ => inside_pure _) fun _ => hmore.anywhere
  · exact inside_bind (inside_expect (by simp)) fun _ => inside_pure _

lemma inside_argumentsIf : Inside P (argumentsIf self) :=
  inside_at? fun _ => inside_ite (fun _ => inside_arguments hself) fun _ => inside_pure _

lemma inside_call (e : Node) : Inside P (call self e) :=
  inside_line fun _ => inside_bind (inside_arguments hself) fun _ => inside_pure _

/-- Subscripts and calls: each of them has been looked at before it is taken. -/
lemma inside_withSuffixes (e : Node) : Inside P (withSuffixes self e) := by
  refine inside_loop (fun e => inside_shape fun s => ?_) e
  split
  · refine inside_bind (inside_subscript hself e fun st hst => ?_) fun _ => inside_pure _
    rw [hst.2]
    rfl
  · refine inside_bind (inside_subscript hself e fun st hst => ?_) fun _ => inside_pure _
    rw [hst.2]
    rfl
  · exact inside_bind (inside_call hself e) fun _ => inside_pure _
  · exact inside_pure _

lemma inside_filter (e : Option Node) : Inside P (filter self e) := by
  refine inside_bind inside_dottedName fun name => ?_
  exact inside_bind (inside_argumentsIf hself) fun a => inside_pure _

lemma inside_piped (e : Option Node) : Inside P (piped self e) := by
  refine inside_loop (fun e => inside_bind (inside_skipIf (by simp)) fun b => ?_) e
  refine inside_ite (fun _ => ?_) fun _ => inside_pure _
  exact inside_bind (inside_filter hself e) fun _ => inside_pure _

lemma inside_test (e : Node) (hP : ∀ st, P st → st.current.shape.isEdge = false) :
    Inside P (test self e) := by
  refine inside_line fun start => inside_skip (Q := Anywhere) hP (fun _ _ _ _ => trivial) ?_
  refine inside_bind (inside_skipIf (by simp)) fun negated => ?_
  refine inside_bind inside_dottedName fun name => ?_
  dsimp only
  refine inside_at? fun s => inside_ite (fun _ => ?_) fun _ => inside_shape fun s => ?_
  · exact inside_bind (inside_arguments hself) fun a => inside_pure _
  · refine inside_ite (fun _ => inside_at? fun s => ?_) fun _ => ?_
    · refine inside_ite (fun _ => inside_bind (inside_failHere _) fun _ => ?_) fun _ => ?_
      all_goals
        refine inside_bind (inside_primary hself false) fun e => ?_
        refine inside_bind (inside_withSuffixes hself e) fun arg => ?_
        exact inside_bind (inside_pure _) fun a => inside_pure _
    · exact inside_bind (inside_pure _) fun a => inside_pure _

lemma inside_withFilters (e : Node) : Inside P (withFilters self e) := by
  refine inside_loop (fun e => inside_shape fun s => ?_) e
  split
  · exact inside_skip_shape rfl (inside_bind (inside_filter hself _) fun _ => inside_pure _)
  · refine inside_bind (inside_test hself e fun st hst => ?_) fun _ => inside_pure _
    rw [hst.2]
    rfl
  · exact inside_bind (inside_call hself e) fun _ => inside_pure _
  · exact inside_pure _

lemma inside_unary (filters : Bool) : Inside P (unary self filters) := by
  refine inside_current fun t => ?_
  dsimp only
  have hrest : ∀ e, Inside Anywhere (do
      let e ← withSuffixes self e
      if filters then withFilters self e else return e) := fun e =>
    inside_bind (inside_withSuffixes hself e) fun e =>
      inside_ite (fun _ => inside_withFilters hself e) fun _ => inside_pure e
  split
  · next hs =>
    refine inside_skip_current (by rw [hs]; rfl) (inside_bind (hself _) fun e => ?_)
    exact inside_bind (inside_pure _) hrest
  · next hs =>
    refine inside_skip_current (by rw [hs]; rfl) (inside_bind (hself _) fun e => ?_)
    exact inside_bind (inside_pure _) hrest
  · exact inside_bind (inside_primary hself false) hrest

lemma inside_power : Inside P (power self) := by
  refine inside_chain (inside_unary hself true) fun s k hk => ?_
  split at hk
  · rfl
  · cases hk

lemma inside_product : Inside P (product self) := by
  refine inside_chain (inside_power hself) fun s k hk => ?_
  split at hk
  case h_5 => cases hk
  all_goals rfl

lemma inside_concat : Inside P (concat self) := by
  refine inside_line fun start => inside_bind (inside_product hself) fun first => ?_
  refine inside_bind (inside_loop (fun es => ?_) _) fun rest => ?_
  · refine inside_bind (inside_skipIf (by simp)) fun b => ?_
    refine inside_ite (fun _ => ?_) fun _ => inside_pure _
    exact inside_bind (inside_product hself) fun e => inside_pure _
  · split <;> exact inside_pure _

lemma inside_sum : Inside P (sum self) := by
  refine inside_chain (inside_concat hself) fun s k hk => ?_
  split at hk
  case h_3 => cases hk
  all_goals rfl

omit hself in
lemma isEdge_of_comparison? {s : Shape} {name : String} (h : comparison? s = some name) :
    s.isEdge = false := by
  unfold comparison? at h
  split at h
  case h_8 => cases h
  all_goals rfl

omit hself in
lemma isEdge_of_isWord {s : Shape} {words : List String} (h : s.isWord words = true) :
    s.isEdge = false := by
  cases s <;> first | rfl | cases h

omit hself in
lemma inside_comparator : Inside P comparator := by
  refine inside_shape fun s => ?_
  dsimp only
  split
  · next name hs => exact inside_skip_shape (isEdge_of_comparison? hs) (inside_pure _)
  · refine inside_ite (fun hnot => inside_look fun t => ?_) fun _ => inside_pure _
    refine inside_ite (fun hin => ?_) fun _ => inside_pure _
    refine inside_skip_skip (fun st hst => ?_) (fun st t' hst ht' => ?_) (inside_pure _)
    · rw [hst.1.2]
      exact isEdge_of_isWord hnot
    · rw [hst.2] at ht'
      cases ht'
      exact isEdge_of_isWord hin

lemma inside_compare : Inside P (compare self) := by
  refine inside_bind (inside_sum hself) fun first => ?_
  refine inside_bind (inside_loop (fun ops => ?_) _) fun ops => ?_
  · refine inside_bind inside_comparator fun c => ?_
    split
    · exact inside_bind (inside_sum hself) fun e => inside_pure _
    · exact inside_pure _
  · split
    · exact inside_pure _
    · exact inside_line fun _ => inside_pure _

lemma inside_negation : Inside P (negation self) := by
  refine inside_line fun start => inside_bind (inside_skipIf (by simp)) fun b => ?_
  refine inside_ite (fun _ => ?_) fun _ => inside_compare hself
  exact inside_bind (hself _) fun e => inside_pure _

lemma inside_conjunction : Inside P (conjunction self) := by
  refine inside_chain (inside_negation hself) fun s k hk => ?_
  split at hk
  · rfl
  · cases hk

lemma inside_disjunction : Inside P (disjunction self) := by
  refine inside_chain (inside_conjunction hself) fun s k hk => ?_
  split at hk
  · rfl
  · cases hk

lemma inside_conditional : Inside P (conditional self) := by
  refine inside_line fun start => inside_bind (inside_disjunction hself) fun first => ?_
  refine inside_loop (fun x => ?_) _
  refine inside_bind (inside_skipIf (by simp)) fun b => ?_
  refine inside_ite (fun _ => ?_) fun _ => inside_pure _
  refine inside_bind (inside_disjunction hself) fun condition => ?_
  refine inside_bind (inside_skipIf (by simp)) fun b => ?_
  dsimp only
  refine inside_ite (fun _ => inside_bind (inside_map (hself _)) fun other => ?_)
    fun _ => inside_bind (inside_pure _) fun other => ?_
  all_goals exact inside_line fun _ => inside_pure _

/-- The phrases of a round, given those of the round before. -/
lemma inside_rule (p : Phrase) : Inside P (rule self p) := by
  cases p with
  | expression => exact inside_conditional hself
  | unconditional => exact inside_disjunction hself
  | negation => exact inside_negation hself
  | signed => exact inside_unary hself false

omit hself in
/-- **Expressions stay inside of their tag.** -/
theorem inside_read (depth : Nat) (p : Phrase) : Inside Anywhere (read depth p) := by
  induction depth generalizing p with
  | zero => exact inside_failHere _
  | succ depth ih => exact inside_rule ih p

end TemplateLint.Grammar.Expression
