import TemplateLint.Proofs.Grammar.Template
import TemplateLint.Proofs.Splice.Walk

/-!
The bodies of regions stand in the tree of their template.

What a linted region holds is spliced into the tree, and so is it into the body of every linted
region around it: whatever statement has a body, the body is in a field that is walked. Inspected
regions leave nothing in the tree, so there may be none of them. Main statement:
`kept_readFrom`.
-/

namespace TemplateLint.Grammar

namespace Stream

variable {st st' : Stream}

lemma edges_suffix_of_advance (h : st.advance = .ok st') : st'.edges <:+ st.edges := by
  by_cases hbegin : st.current.shape = .blockBegin
  · rw [edges_of_blockBegin h hbegin]
    exact List.suffix_cons _ _
  · by_cases hend : st.current.shape = .blockEnd
    · rw [edges_of_blockEnd h hend]
      exact List.suffix_cons _ _
    · have hs : st.current.shape.isEdge = false := by
        cases hshape : st.current.shape <;> simp_all [Shape.isEdge]
      rw [edges_of_not_isEdge h hs]

/-- No tag of an inspected region is ahead. -/
def Uninspected (st : Stream) : Prop := ∀ e ∈ st.edges, e.opens "inspect" = false

lemma Uninspected.of_suffix (h : st.Uninspected) (hs : st'.edges <:+ st.edges) :
    st'.Uninspected :=
  fun e he => h e (hs.subset he)

end Stream

/-! ### Regions and bodies -/

/-- Regions that have been closed, numbered from `o` up to `o'`, and the bodies that have been read
meanwhile: what a region holds is in one of the bodies, and in every region around it. -/
structure Kept (o : Nat) (rs : List Region) (o' : Nat) (bodies : List (List Node)) : Prop where
  le : o ≤ o'
  ordinals : ∀ r ∈ rs, ∃ k, r.purpose = .lint k ∧ o ≤ k ∧ k < o'
  spliced : ∀ r ∈ rs, ∃ b ∈ bodies, Spliced r.body b
  /-- A region that is closed earlier and was opened later is inside. -/
  nested : rs.Pairwise fun a b => ∀ i j, a.purpose = .lint i → b.purpose = .lint j → j < i →
    Spliced a.body b.body

namespace Kept

variable {o o' o'' : Nat} {rs rs' : List Region} {bs bs' : List (List Node)}

lemma refl (o : Nat) (bs : List (List Node)) : Kept o [] o bs :=
  ⟨le_refl o, by simp, by simp, .nil⟩

lemma trans (h : Kept o rs o' bs) (h' : Kept o' rs' o'' bs') :
    Kept o (rs ++ rs') o'' (bs ++ bs') where
  le := h.le.trans h'.le
  ordinals r hr := by
    have hle := h.le
    have hle' := h'.le
    rcases List.mem_append.1 hr with hr | hr
    · obtain ⟨k, hk, hfirst, hlast⟩ := h.ordinals r hr
      exact ⟨k, hk, by omega, by omega⟩
    · obtain ⟨k, hk, hfirst, hlast⟩ := h'.ordinals r hr
      exact ⟨k, hk, by omega, by omega⟩
  spliced r hr := by
    rcases List.mem_append.1 hr with hr | hr
    · obtain ⟨b, hb, hs⟩ := h.spliced r hr
      exact ⟨b, List.mem_append_left _ hb, hs⟩
    · obtain ⟨b, hb, hs⟩ := h'.spliced r hr
      exact ⟨b, List.mem_append_right _ hb, hs⟩
  nested := by
    refine List.pairwise_append.2 ⟨h.nested, h'.nested, fun a ha b hb i j hi hj hlt => ?_⟩
    -- the regions that are closed later here were opened later, too
    obtain ⟨k, hk, -, hlast⟩ := h.ordinals a ha
    obtain ⟨m, hm, hfirst, -⟩ := h'.ordinals b hb
    rw [hi] at hk
    rw [hj] at hm
    cases hk
    cases hm
    omega

/-- The bodies may become parts of others. -/
lemma mono (h : Kept o rs o' bs) (hbs : ∀ b ∈ bs, ∃ b' ∈ bs', Spliced b b') :
    Kept o rs o' bs' where
  le := h.le
  ordinals := h.ordinals
  spliced r hr := by
    obtain ⟨b, hb, hs⟩ := h.spliced r hr
    obtain ⟨b', hb', hs'⟩ := hbs b hb
    exact ⟨b', hb', hs.trans hs'⟩
  nested := h.nested

/-- A region around those that are closed. -/
lemma region {r : Region} (hr : r.purpose = .lint o) (h : Kept (o + 1) rs o' [r.body]) :
    Kept o (rs ++ [r]) o' [r.body] where
  le := by have := h.le; omega
  ordinals r' hr' := by
    rcases List.mem_append.1 hr' with hr' | hr'
    · obtain ⟨k, hk, hfirst, hlast⟩ := h.ordinals r' hr'
      exact ⟨k, hk, by omega, hlast⟩
    · rw [List.mem_singleton.1 hr']
      exact ⟨o, hr, le_refl o, h.le⟩
  spliced r' hr' := by
    rcases List.mem_append.1 hr' with hr' | hr'
    · exact h.spliced r' hr'
    · rw [List.mem_singleton.1 hr']
      exact ⟨r.body, List.mem_singleton_self _, .refl _⟩
  nested := by
    refine List.pairwise_append.2 ⟨h.nested, List.pairwise_singleton _ _,
      fun a ha b hb i j hi hj hlt => ?_⟩
    obtain ⟨b', hb', hs⟩ := h.spliced a ha
    rw [List.mem_singleton.1 hb]
    rwa [List.mem_singleton.1 hb'] at hs

end Kept

/-- From one state to another one: the regions that are closed meanwhile are in the given bodies. -/
def Progress.Since (s₀ : Progress) (bodies : List (List Node)) (s : Progress) : Prop :=
  ∃ rs, s.regions = s₀.regions ++ rs ∧ Kept s₀.opened rs s.opened bodies

namespace Progress.Since

variable {s₀ s s' : Progress} {bs bs' : List (List Node)}

lemma refl (s : Progress) : s.Since [] s := ⟨[], (List.append_nil _).symm, .refl _ _⟩

lemma trans (h : s₀.Since bs s) (h' : s.Since bs' s') : s₀.Since (bs ++ bs') s' := by
  obtain ⟨rs, hrs, hkept⟩ := h
  obtain ⟨rs', hrs', hkept'⟩ := h'
  exact ⟨rs ++ rs', by rw [hrs', hrs, List.append_assoc], hkept.trans hkept'⟩

lemma mono (h : s₀.Since bs s) (hbs : ∀ b ∈ bs, ∃ b' ∈ bs', Spliced b b') : s₀.Since bs' s := by
  obtain ⟨rs, hrs, hkept⟩ := h
  exact ⟨rs, hrs, hkept.mono hbs⟩

end Progress.Since

namespace Reading

open Phrasing Expression

/-- While bodies have been read since some state, a reading goes on: if it succeeds, then the
regions closed since then are in the bodies that its result has. No inspected region may be
ahead. -/
def Carries {α : Type} (bs : List (List Node)) (p : Reading α) (B : α → List (List Node)) : Prop :=
  ∀ (s₀ s : Progress) (a : α) (s' : Progress), s.stream.Uninspected → s₀.Since bs s →
    p.run s = (.ok a, s') → s'.stream.Uninspected ∧ s₀.Since (B a) s'

section

variable {α β : Type} {bs : List (List Node)} {B : α → List (List Node)} {C : β → List (List Node)}
  {p : Reading α} {f : α → Reading β}

lemma carries_pure {a : α} (h : ∀ b ∈ bs, ∃ b' ∈ B a, Spliced b b') :
    Carries bs (pure a) B := by
  intro s₀ s a' s' hs hsince hr
  cases hr
  exact ⟨hs, hsince.mono h⟩

/-- What has been read stays. -/
lemma carries_keep (a : α) : Carries bs (pure a : Reading α) fun _ => bs :=
  carries_pure fun b hb => ⟨b, hb, .refl b⟩

lemma carries_bind (hp : Carries bs p B) (hf : ∀ a, Carries (B a) (f a) C) :
    Carries bs (p >>= f) C := by
  intro s₀ s b s' hs hsince hr
  obtain ⟨a, s₁, h₁, h₂⟩ := run_bind_eq_ok hr
  obtain ⟨hs₁, hsince₁⟩ := hp s₀ s a s₁ hs hsince h₁
  exact hf a s₀ s₁ b s' hs₁ hsince₁ h₂

lemma carries_map {g : α → β} (hp : Carries bs p B) (h : ∀ a, C (g a) = B a) :
    Carries bs (g <$> p) C := by
  rw [← bind_pure_comp]
  refine carries_bind hp fun a => carries_pure fun b hb => ⟨b, ?_, .refl b⟩
  rwa [h a]

lemma carries_ite {c : Prop} [Decidable c] {q : Reading α} (hp : Carries bs p B)
    (hq : Carries bs q B) : Carries bs (if c then p else q) B := by
  split
  · exact hp
  · exact hq

/-- Phrases close no regions. -/
lemma carries_shrinking {q : Phrasing α}
    (h : ∀ st a st', q.run st = .ok (a, st') → st'.edges <:+ st.edges) :
    Carries bs (liftM q : Reading α) fun _ => bs := by
  intro s₀ s a s' hs hsince hr
  obtain ⟨st, h₁, rfl⟩ := run_phrase_eq_ok hr
  exact ⟨hs.of_suffix (h _ _ _ h₁), hsince⟩

lemma carries_phrase {q : Phrasing α} (h : Inside Anywhere q) :
    Carries bs (liftM q : Reading α) fun _ => bs :=
  carries_shrinking fun st a st' hr => by rw [(h st a st' trivial hr).edges]

lemma carries_next : Carries bs (liftM next : Reading Terminal) fun _ => bs :=
  carries_shrinking fun _ _ _ hr => Stream.edges_suffix_of_advance (run_next_eq_ok hr).2

lemma carries_skip : Carries bs (liftM skip : Reading Unit) fun _ => bs :=
  carries_shrinking fun _ _ _ hr => Stream.edges_suffix_of_advance (run_skip_eq_ok hr)

lemma carries_expect (w : Wanted) :
    Carries bs (liftM (expect w) : Reading Terminal) fun _ => bs := by
  refine carries_shrinking fun st t st' hr => ?_
  obtain ⟨t', st₁, ht, h⟩ := Phrasing.run_bind_eq_ok hr
  cases ht
  split at h
  · exact Stream.edges_suffix_of_advance (run_next_eq_ok h).2
  · cases h

lemma carries_fail (cause : Cause) (line : Nat) :
    Carries bs (liftM (fail cause line : Phrasing α)) B := by
  intro s₀ s a s' _ _ hr
  obtain ⟨st, h₁, -⟩ := run_phrase_eq_ok hr
  cases h₁

lemma carries_failHere (cause : Cause) :
    Carries bs (liftM (failHere cause : Phrasing α)) B := by
  intro s₀ s a s' _ _ hr
  obtain ⟨st, h₁, -⟩ := run_phrase_eq_ok hr
  cases h₁

end

/-! ### Statements -/

/-- What a reading of nodes closes is in the nodes that it gives. -/
def Splices {α : Type} (p : Reading α) (nodes : α → List Node) : Prop :=
  Carries [] p fun a => [nodes a]

/-- After other bodies, nodes that are read are one body more. -/
lemma Splices.carries {α : Type} {p : Reading α} {nodes : α → List Node} (h : Splices p nodes)
    (bs : List (List Node)) : Carries bs p fun a => bs ++ [nodes a] := by
  intro s₀ s a s' hs hsince hr
  obtain ⟨hs', hsince'⟩ := h s s a s' hs (.refl s) hr
  exact ⟨hs', hsince.trans hsince'⟩

lemma carries_node {bs : List (List Node)} {n : Node} (h : ∀ b ∈ bs, Spliced b [n]) :
    Carries bs (pure n : Reading Node) fun n => [[n]] :=
  carries_pure fun b hb => ⟨[n], List.mem_singleton_self _, h b hb⟩

variable {self : Search → Reading (List Node × Nat)} {search : Search}
  (hself : ∀ search, Splices (self search) Prod.fst)

section

variable {bs : List (List Node)}

include hself

lemma carries_bodyUpTo (ends : List String) :
    Carries bs (bodyUpTo self search ends) fun b => bs ++ [b.nodes] := by
  refine carries_bind (carries_phrase (inside_skipIf (by simp))) fun _ => ?_
  refine carries_bind (carries_expect _) fun opening => ?_
  refine carries_bind ((hself _).carries bs) fun r => ?_
  refine carries_bind (carries_phrase (inside_shape fun _ => inside_pure _)) fun s => ?_
  have hpure : Carries (bs ++ [r.1]) (pure ⟨r.1, opening.place + 1, r.2⟩ : Reading Body)
      fun b => bs ++ [b.nodes] := carries_pure fun b hb => ⟨b, hb, .refl b⟩
  exact carries_ite (carries_bind (carries_failHere _) fun _ => hpure) hpure

lemma carries_body (tag : String) :
    Carries bs (body self search tag) fun b => bs ++ [b.nodes] := by
  refine carries_bind (carries_bodyUpTo hself _) fun b => carries_bind carries_skip fun _ => ?_
  exact carries_pure fun b hb => ⟨b, hb, .refl b⟩

lemma splices_loop : Splices (loop self search) ([·]) := by
  refine carries_bind carries_next fun tag => ?_
  refine carries_bind (carries_phrase (inside_target _ _)) fun target => ?_
  refine carries_bind (carries_phrase (inside_expect (by simp))) fun _ => ?_
  refine carries_bind (carries_phrase (inside_tuple _)) fun items => ?_
  have hnode : ∀ (test : Option Node) (isRecursive : Bool) (b other : List Node),
      ∀ ns ∈ [b, other], Spliced ns [nodeAt tag.line .forLoop [.node target, .node items,
        .nodes b, .nodes other, .ofOption test, .bool isRecursive]] := by
    intro test isRecursive b other ns hns
    rcases List.mem_pair.1 hns with rfl | rfl
    · exact .of_nodes "body" (by simp [Kind.fieldNames]) (by simp [Kind.skipped?])
    · exact .of_nodes "else_" (by simp [Kind.fieldNames]) (by simp [Kind.skipped?])
  refine carries_bind (carries_phrase (inside_skipIf (by simp))) fun hasTest => ?_
  refine carries_ite
    (carries_bind (carries_map (C := fun _ => []) (carries_phrase inside_expression) fun _ => rfl)
      fun test => ?_)
    (carries_bind (carries_keep none) fun test => ?_)
  all_goals
    refine carries_bind (carries_phrase (inside_skipIf (by simp))) fun isRecursive => ?_
    refine carries_bind (carries_bodyUpTo hself _) fun b => ?_
    refine carries_bind carries_next fun ending => ?_
    refine carries_ite ?_ ?_
    · refine carries_bind (carries_keep []) fun other => carries_node fun ns hns => ?_
      exact hnode _ _ _ _ ns (List.mem_cons.2 (.inl (List.mem_singleton.1 hns)))
    · refine carries_bind (carries_body hself _) fun b' => ?_
      refine carries_bind (B := fun other => [b.nodes, other]) (carries_pure fun ns hns => ?_)
        fun other => carries_node (hnode _ _ _ _)
      exact ⟨ns, hns, .refl ns⟩

/-- The bodies of branches. -/
def bodiesOf (r : Node × List Node × List (Nat × Node × List Node) × List Node) :
    List (List Node) :=
  r.2.1 :: r.2.2.2 :: r.2.2.1.map fun x => x.2.2

lemma carries_branches (rounds : Nat) :
    Carries bs (branches self search rounds) fun r => bs ++ bodiesOf r := by
  induction rounds generalizing bs with
  | zero => exact carries_failHere _
  | succ rounds ih =>
    refine carries_bind (carries_phrase (inside_tuple _)) fun test => ?_
    refine carries_bind (carries_bodyUpTo hself _) fun b => ?_
    refine carries_bind carries_next fun ending => ?_
    refine carries_ite ?_ (carries_ite ?_ ?_)
    · refine carries_bind (carries_phrase (inside_line fun n => inside_pure n)) fun start => ?_
      refine carries_bind ih fun r => carries_pure fun ns hns => ⟨ns, ?_, .refl ns⟩
      simp only [bodiesOf, List.mem_append, List.mem_cons, List.not_mem_nil, or_false,
        List.map_cons] at hns ⊢
      tauto
    · refine carries_bind (carries_body hself _) fun b' => ?_
      refine carries_pure fun ns hns => ⟨ns, ?_, .refl ns⟩
      simpa [bodiesOf, or_assoc] using hns
    · refine carries_pure fun ns hns => ⟨ns, ?_, .refl ns⟩
      simp only [bodiesOf, List.mem_append, List.mem_cons, List.not_mem_nil, or_false,
        List.map_nil] at hns ⊢
      tauto

omit hself in
lemma spliced_branchNode {line : Nat} {test : Node} {body elifs other ns : List Node}
    (h : ns ∈ [body, elifs, other]) : Spliced ns [branchNode line test body elifs other] := by
  simp only [List.mem_cons, List.not_mem_nil, or_false] at h
  rcases h with rfl | rfl | rfl
  · exact .of_nodes "body" (by simp [Kind.fieldNames]) (by simp [Kind.skipped?])
  · exact .of_nodes "elif_" (by simp [Kind.fieldNames]) (by simp [Kind.skipped?])
  · exact .of_nodes "else_" (by simp [Kind.fieldNames]) (by simp [Kind.skipped?])

lemma splices_branch : Splices (branch self search) ([·]) := by
  refine carries_bind carries_next fun tag => ?_
  refine carries_bind (B := fun _ => []) (fun s₀ s a s' hs hsince hr => ?_) fun progress => ?_
  · cases hr
    exact ⟨hs, hsince⟩
  · refine carries_bind (carries_branches hself _) fun r => carries_node fun ns hns => ?_
    simp only [bodiesOf, List.nil_append, List.mem_cons] at hns
    rcases hns with rfl | rfl | hns
    · exact spliced_branchNode (by simp)
    · exact spliced_branchNode (by simp)
    · -- the body of a further condition is in the node of that condition
      obtain ⟨x, hx, rfl⟩ := List.mem_map.1 hns
      set elifs := r.2.2.1.map fun x => branchNode x.1 x.2.1 x.2.2 [] []
      have helif : Spliced [branchNode x.1 x.2.1 x.2.2 [] []] elifs := by
        obtain ⟨before, after, hsplit⟩ := List.append_of_mem (List.mem_map_of_mem (f := fun x :
          Nat × Node × List Node => branchNode x.1 x.2.1 x.2.2 [] []) hx)
        exact .here ⟨before, after, by simp [elifs, hsplit]⟩
      have hbody : Spliced x.2.2 [branchNode x.1 x.2.1 x.2.2 [] []] :=
        spliced_branchNode (by simp)
      exact (hbody.trans helif).trans (spliced_branchNode (by simp))

lemma splices_block : Splices (block self search) ([·]) := by
  refine carries_bind carries_next fun tag => ?_
  refine carries_bind (carries_phrase inside_expectName) fun name => ?_
  refine carries_bind (carries_phrase (inside_skipIf (by simp))) fun isScoped => ?_
  refine carries_bind (carries_phrase (inside_skipIf (by simp))) fun isRequired => ?_
  refine carries_bind (carries_phrase (inside_at? fun s => inside_pure _)) fun hasHyphen => ?_
  refine carries_ite (carries_bind (carries_failHere (B := fun _ => []) _) fun _ => ?_) ?_
  all_goals
    refine carries_bind (carries_body hself _) fun b => ?_
    refine carries_ite
      (carries_bind (carries_failHere (B := fun _ => [b.nodes]) _) fun _ => ?_) ?_
    all_goals
      refine carries_bind (carries_phrase (inside_skipIf (by simp))) fun _ => ?_
      refine carries_node fun ns hns => ?_
      rw [List.mem_singleton.1 hns]
      exact .of_nodes "body" (by simp [Kind.fieldNames]) (by simp [Kind.skipped?])

lemma splices_macroDef : Splices (macroDef self search) ([·]) := by
  refine carries_bind carries_next fun tag => ?_
  refine carries_bind (carries_phrase inside_nameTarget) fun name => ?_
  refine carries_bind (carries_phrase inside_signature) fun parameters => ?_
  refine carries_bind (carries_body hself _) fun b => carries_node fun ns hns => ?_
  rw [List.mem_singleton.1 hns]
  exact .of_nodes "body" (by simp [Kind.fieldNames]) (by simp [Kind.skipped?])

lemma splices_callBlock : Splices (callBlock self search) ([·]) := by
  refine carries_bind carries_next fun tag => ?_
  refine carries_bind (carries_phrase (inside_at? fun s => inside_pure _)) fun hasSignature => ?_
  refine carries_ite (carries_bind (carries_phrase inside_signature) fun parameters => ?_)
    (carries_bind (carries_keep _) fun parameters => ?_)
  all_goals
    refine carries_bind (carries_phrase inside_expression) fun call => ?_
    refine carries_ite (carries_bind (carries_fail (B := fun _ => []) _ _) fun _ => ?_) ?_
    all_goals
      refine carries_bind (carries_body hself _) fun b => carries_node fun ns hns => ?_
      rw [List.mem_singleton.1 hns]
      exact .of_nodes "body" (by simp [Kind.fieldNames]) (by simp [Kind.skipped?])

lemma splices_filterBlock : Splices (filterBlock self search) ([·]) := by
  refine carries_bind carries_next fun tag => ?_
  refine carries_bind (carries_phrase (Expression.inside_filter inside_phrase none)) fun first => ?_
  refine carries_bind (carries_phrase (Expression.inside_piped inside_phrase _)) fun filter => ?_
  refine carries_bind (carries_body hself _) fun b => carries_node fun ns hns => ?_
  rw [List.mem_singleton.1 hns]
  exact .of_nodes "body" (by simp [Kind.fieldNames]) (by simp [Kind.skipped?])

lemma splices_assignment : Splices (assignment self search) ([·]) := by
  refine carries_bind carries_next fun tag => ?_
  refine carries_bind (carries_phrase (inside_target _ _)) fun target => ?_
  refine carries_bind (carries_phrase (inside_skipIf (by simp))) fun hasValue => carries_ite ?_ ?_
  · refine carries_bind (carries_phrase (inside_tuple _)) fun value => carries_node ?_
    simp
  · refine carries_bind (carries_phrase (Expression.inside_piped inside_phrase _)) fun filter => ?_
    refine carries_bind (carries_body hself _) fun b => carries_node fun ns hns => ?_
    rw [List.mem_singleton.1 hns]
    exact .of_nodes "body" (by simp [Kind.fieldNames]) (by simp [Kind.skipped?])

lemma splices_withScope : Splices (withScope self search) ([·]) := by
  refine carries_bind carries_next fun tag => ?_
  refine carries_bind (carries_phrase (inside_items fun _ => ?_)) fun ps => ?_
  · refine inside_bind (inside_target _ _) fun target => ?_
    refine inside_bind (inside_expect (by simp)) fun _ => ?_
    exact inside_bind inside_expression fun value => inside_pure _
  · refine carries_bind (carries_body hself _) fun b => carries_node fun ns hns => ?_
    rw [List.mem_singleton.1 hns]
    exact .of_nodes "body" (by simp [Kind.fieldNames]) (by simp [Kind.skipped?])

/-- The body is two levels down. -/
lemma splices_autoescape : Splices (autoescape self search) ([·]) := by
  refine carries_bind carries_next fun tag => ?_
  refine carries_bind (carries_phrase inside_expression) fun value => ?_
  refine carries_bind (carries_body hself _) fun b => carries_node fun ns hns => ?_
  rw [List.mem_singleton.1 hns]
  set modifier := nodeAt tag.line .scopedEvalContextModifier
    [.nodes [.mk .keyword none [.text "autoescape", .node value]], .nodes b.nodes]
  have hbody : Spliced b.nodes [modifier] :=
    .of_nodes "body" (by simp [Kind.fieldNames]) (by simp [Kind.skipped?])
  exact hbody.trans (.of_nodes "body" (by simp [Kind.fieldNames]) (by simp [Kind.skipped?]))

/-- A linted region is around the regions that are closed in it, and leaves its body in the
template. -/
lemma splices_lintRegion : Splices (lintRegion self search) id := by
  intro s₀ s ns s' hs hsince hr
  obtain ⟨tag, st, hnext, hr⟩ := run_phrase_bind_eq_ok hr
  obtain ⟨ordinal, s₂, h₂, hr⟩ := run_bind_eq_ok hr
  obtain ⟨b, s₃, h₃, hr⟩ := run_bind_eq_ok hr
  obtain ⟨u, s₄, h₄, hr⟩ := run_bind_eq_ok hr
  have hst := hs.of_suffix (Stream.edges_suffix_of_advance (run_next_eq_ok hnext).2)
  cases h₂
  obtain ⟨hs₃, rs, hrs, hkept⟩ := carries_body hself "endlint" _ _ _ _ hst (.refl _) h₃
  cases h₄
  cases hr
  refine ⟨hs₃, hsince.trans ⟨rs ++ [⟨.lint s.opened, tag.line, b.nodes, b.first, b.stop,
    s₃.opened⟩], ?_, ?_⟩⟩
  · dsimp only
    rw [hrs, List.append_assoc]
  · exact Kept.region rfl hkept

end

/-- A statement without a body. -/
lemma splices_extend : Splices extend ([·]) := by
  refine carries_bind carries_next fun tag => ?_
  exact carries_bind (carries_phrase inside_expression) fun value => carries_node (by simp)

lemma splices_print : Splices print ([·]) := by
  refine carries_bind carries_next fun tag => ?_
  refine carries_bind (carries_phrase (inside_items fun _ => inside_expression)) fun es => ?_
  exact carries_node (by simp)

lemma splices_inclusion : Splices inclusion ([·]) := by
  refine carries_bind carries_next fun tag => ?_
  refine carries_bind (carries_phrase inside_expression) fun template => ?_
  refine carries_bind (carries_phrase inside_ignores) fun ignoreMissing => ?_
  refine carries_bind (carries_phrase (inside_contextAfterName _)) fun withContext => ?_
  exact carries_node (by simp)

lemma splices_importModule : Splices importModule ([·]) := by
  refine carries_bind carries_next fun tag => ?_
  refine carries_bind (carries_phrase inside_expression) fun template => ?_
  refine carries_bind (carries_phrase (inside_expect (by simp))) fun _ => ?_
  refine carries_bind (carries_phrase inside_nameTarget) fun target => ?_
  refine carries_bind (carries_phrase (inside_contextAfterName _)) fun withContext => ?_
  exact carries_node (by simp)

lemma splices_fromImport : Splices fromImport ([·]) := by
  refine carries_bind carries_next fun tag => ?_
  refine carries_bind (carries_phrase inside_expression) fun template => ?_
  refine carries_bind (carries_phrase (inside_expect (by simp))) fun _ => ?_
  exact carries_bind (carries_phrase inside_importedNames) fun names => carries_node (by simp)

lemma splices_doStatement : Splices doStatement ([·]) := by
  refine carries_bind carries_next fun tag => ?_
  exact carries_bind (carries_phrase (inside_tuple _)) fun value => carries_node (by simp)

lemma splices_loopControl (tag : String) : Splices (loopControl tag) ([·]) :=
  carries_bind carries_next fun _ => carries_node (by simp)

lemma splices_debug : Splices debug ([·]) :=
  carries_bind carries_next fun _ => carries_node (by simp)

include hself

lemma splices_standardStatement {tag : String} {p : Reading Node}
    (h : standardStatement? self search tag = some p) : Splices p ([·]) := by
  unfold standardStatement? at h
  split at h <;> cases h
  · exact splices_loop hself
  · exact splices_branch hself
  · exact splices_block hself
  · exact splices_extend
  · exact splices_print
  · exact splices_macroDef hself
  · exact splices_inclusion
  · exact splices_fromImport
  · exact splices_importModule
  · exact splices_assignment hself
  · exact splices_withScope hself
  · exact splices_autoescape hself
  · exact splices_callBlock hself
  · exact splices_filterBlock hself

omit hself in
/-- A node by itself makes nodes. -/
lemma Splices.singleton {p : Reading Node} (h : Splices p ([·])) :
    Splices (List.singleton <$> p) id :=
  carries_map h fun _ => rfl

/-- Whatever an extension adds is spliced, but for inspected regions. -/
lemma splices_extensionStatement {e : Extension} {tag : String} (htag : tag ∈ e.tags)
    (hinspect : tag ≠ "inspect") : Splices (extensionStatement self search e tag) id := by
  cases e with
  | lint => exact splices_lintRegion hself
  | inspect => exact absurd (by simpa [Extension.tags] using htag) hinspect
  | doStatement => exact splices_doStatement.singleton
  | loopControls => exact (splices_loopControl tag).singleton
  | debug => exact splices_debug.singleton

lemma since_statement {es : List Extension} {s s' : Progress} {ns : List Node}
    (hs : s.stream.Uninspected) (htag : s.stream.current.shape.name? ≠ some "inspect")
    (h : (statement self search es).run s = (.ok ns, s')) :
    s'.stream.Uninspected ∧ s.Since [ns] s' := by
  obtain ⟨t, s₁, h₁, h⟩ := run_bind_eq_ok h
  cases h₁
  dsimp only at h
  split at h
  · next tag hname =>
    rw [hname] at htag
    split at h
    · next p hp =>
      exact (splices_standardStatement hself hp).singleton s s ns s' hs (.refl s) h
    · split at h
      · next e he =>
        have hmem : tag ∈ e.tags := by simpa using List.find?_some he
        have hinspect : tag ≠ "inspect" := fun heq => htag (congrArg some heq)
        exact splices_extensionStatement hself hmem hinspect s s ns s' hs (.refl s) h
      · obtain ⟨st, h₂, -⟩ := run_phrase_eq_ok h
        cases h₂
  · obtain ⟨st, h₂, -⟩ := run_phrase_eq_ok h
    cases h₂

omit hself

/-- The nodes of a template or of a body have the regions in them that are closed meanwhile. -/
lemma splices_nodes (es : List Extension) (rounds : Nat) (pieces : List Node) (search : Search) :
    Splices (nodes es rounds pieces search) Prod.fst := by
  induction rounds generalizing pieces search with
  | zero => exact carries_failHere _
  | succ rounds ih =>
    intro s₀ s r s' hs hsince h
    obtain ⟨t, s₁, h₁, h⟩ := run_bind_eq_ok h
    cases h₁
    dsimp only at h
    split at h
    · obtain ⟨u, s₁, hskip, h⟩ := run_bind_eq_ok h
      obtain ⟨hs₁, hsince₁⟩ := carries_skip s₀ s u s₁ hs hsince hskip
      exact ih _ search s₀ s₁ r s' hs₁ hsince₁ h
    · obtain ⟨u, s₁, hskip, h⟩ := run_bind_eq_ok h
      obtain ⟨hs₁, hsince₁⟩ := carries_skip s₀ s u s₁ hs hsince hskip
      have hrest := carries_bind (carries_phrase (inside_tuple .expression)) fun e =>
        carries_bind (carries_expect .variableEnd) fun _ => ih (pieces ++ [e]) search
      exact hrest s₀ s₁ r s' hs₁ hsince₁ h
    · next hshape =>
      obtain ⟨u, st, hskip, h⟩ := run_phrase_bind_eq_ok h
      obtain ⟨shape, s₁, h₁, h⟩ := run_bind_eq_ok h
      cases h₁
      have hadvance := run_skip_eq_ok hskip
      have hedges := Stream.edges_of_blockBegin hadvance hshape
      have hst : Stream.Uninspected st :=
        hs.of_suffix (Stream.edges_suffix_of_advance hadvance)
      have htag : st.current.shape.name? ≠ some "inspect" := by
        intro hname
        have hopens := hs (.opening s.stream.current.place st.current.shape.name?)
          (by rw [hedges]; exact List.mem_cons_self)
        simp [hname, Edge.opens] at hopens
      split at h
      · cases h
        exact ⟨hst, hsince.mono (by simp)⟩
      · obtain ⟨ns, s₂, h₂, h⟩ := run_bind_eq_ok h
        obtain ⟨u', s₃, h₃, h⟩ := run_bind_eq_ok h
        obtain ⟨⟨rest, stop⟩, s₄, h₄, h⟩ := run_bind_eq_ok h
        cases h
        obtain ⟨hs₂, hsince₂⟩ := since_statement (fun search => ih [] search) hst htag h₂
        obtain ⟨hs₃, hsince₃⟩ := carries_expect .blockEnd _ _ _ _ hs₂ hsince₂ h₃
        obtain ⟨hs₄, hsince₄⟩ := (ih [] search).carries _ _ _ _ _ hs₃ hsince₃ h₄
        have hsince' : s₀.Since [] { s with stream := st } := hsince
        refine ⟨hs₄, (hsince'.trans hsince₄).mono fun b hb => ⟨_, List.mem_singleton_self _, ?_⟩⟩
        rcases List.mem_pair.1 hb with rfl | rfl
        · exact .here ⟨output pieces, rest, rfl⟩
        · exact .here ⟨output pieces ++ ns, [], by simp⟩
    · cases h
      exact ⟨hs, hsince.mono (by simp)⟩
    · obtain ⟨st, h₁, -⟩ := run_phrase_eq_ok h
      cases h₁

end Reading

/-- **The regions of a template without inspected ones are spliced into its tree**, and every region
into those around it. -/
theorem kept_readFrom {es : List Extension} {st : Stream} (hst : st.Uninspected) {n : Node}
    (h : (readFrom es st).tree = .ok n) : ∃ ns, n.walked? = some ns ∧
      Kept 0 (readFrom es st).regions (readFrom es st).opened [ns] := by
  rcases hrun : (Reading.template es).run ⟨st, [], 0⟩ with ⟨tree, s⟩
  simp only [readFrom, hrun] at h ⊢
  rw [h] at hrun
  obtain ⟨progress, s₀, h₀, hrun⟩ := Reading.run_bind_eq_ok hrun
  cases h₀
  obtain ⟨r, s₁, h₁, hrun⟩ := Reading.run_bind_eq_ok hrun
  cases hrun
  obtain ⟨-, rs, hrs, hkept⟩ :=
    Reading.splices_nodes es _ _ _ _ _ _ _ hst (Progress.Since.refl _) h₁
  refine ⟨r.1, Node.walked?_template _ _, ?_⟩
  rw [hrs]
  exact hkept

end TemplateLint.Grammar
