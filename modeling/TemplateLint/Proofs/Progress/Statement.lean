import TemplateLint.Grammar.Statement
import TemplateLint.Proofs.Progress.Expression

/-!
Statements make progress, and so do whole templates.

Nodes are read where text begins: at the start of a template, behind text and behind the end of a
tag. In a stream in order the lexer has left every tag there, so the reader never meets the inside
of a tag instead of a node. Every round and every level takes a terminal. Main statement:
`progresses_template`.
-/

namespace TemplateLint.Grammar

/-- Whether a node can begin with a terminal, or a template end there. -/
def Shape.beginsNode : Shape → Bool
  | .data _ | .variableBegin | .blockBegin | .finish => true
  | _ => false

/-- Whether text goes on behind a terminal. -/
def Shape.endsTag : Shape → Bool
  | .data _ | .variableEnd | .blockEnd => true
  | _ => false

/-- Whether a terminal may stand behind another one. -/
def Terminal.Follows (t t' : Terminal) : Prop := t.shape.endsTag → t'.shape.beginsNode

namespace Stream

/-- A stream in order: behind text and behind the end of a tag begins a node. -/
def Orderly (st : Stream) : Prop := (st.current :: st.ahead).IsChain Terminal.Follows

variable {st st' : Stream}

lemma Orderly.advance (ho : st.Orderly) (h : st.advance = .ok st') :
    st'.Orderly ∧ st.current.Follows st'.current := by
  rw [Orderly] at ho
  unfold Stream.advance at h
  split at h
  · next t ts ha =>
    cases h
    rw [ha, List.isChain_cons_cons] at ho
    exact ⟨ho.2, ho.1⟩
  · next ha =>
    split at h
    · cases h
    · cases h
      rw [Orderly, ha]
      exact ⟨.singleton _, fun _ => rfl⟩

lemma Orderly.leads (ho : st.Orderly) (h : Leads st st') : st'.Orderly := by
  induction h with
  | refl => exact ho
  | tail _ hadvance ih => exact (ih.advance hadvance).1

end Stream

namespace Reading

open Phrasing

/-! ### Phrases of statements -/

section

variable {m : Nat} {P : Stream → Prop}

lemma progresses_tuple (part : Phrase) : Phrasing.Progresses m P (tuple part) fun _ => m - 1 :=
  Expression.progresses_tuple (fun _ _ => progresses_phrase part) false

lemma progresses_expression : Phrasing.Progresses m P expression fun _ => m - 1 :=
  progresses_phrase _

lemma progresses_signature : Phrasing.Progresses m P signature fun _ => m - 1 := by
  refine progresses_bind progresses_expect fun _ => ?_
  refine progresses_bind (progresses_items fun k hk before => ?_) fun ps => ?_
  · refine progresses_bind progresses_nameTarget fun name => ?_
    dsimp only
    refine progresses_ifSkip ?_ ?_
    · exact progresses_bind progresses_expression fun e => progresses_pure (by omega)
    · exact progresses_ite (fun _ => progresses_failHere_bind rfl) fun _ =>
        progresses_pure (Nat.le_refl _)
  · exact progresses_bind progresses_expect fun _ => progresses_pure (Nat.sub_le _ _)

lemma progresses_context : Phrasing.Progresses m P context fun _ => m := by
  refine progresses_current fun t => ?_
  dsimp only
  refine progresses_ite (fun hopens => progresses_look fun t' => ?_) fun _ =>
    progresses_pure (Nat.le_refl m)
  refine progresses_ite (fun _ => ?_) fun _ => progresses_pure (Nat.le_refl m)
  refine progresses_bind progresses_skip_anywhere fun _ => ?_
  exact progresses_bind progresses_skip_anywhere fun _ => progresses_pure (Nat.le_refl m)

lemma progresses_contextAfterName (default : Bool) :
    Phrasing.Progresses m P (contextAfterName default) fun _ => m := by
  refine progresses_shape fun s => progresses_ite (fun _ => ?_) fun _ =>
    progresses_pure (Nat.le_refl m)
  exact progresses_bind progresses_context fun c => progresses_pure (Nat.le_refl m)

lemma progresses_ignores : Phrasing.Progresses m P inclusion.ignores fun _ => m := by
  refine progresses_at? fun s => progresses_ite (fun _ => progresses_look fun t => ?_) fun _ =>
    progresses_pure (Nat.le_refl m)
  refine progresses_ite (fun _ => ?_) fun _ => progresses_pure (Nat.le_refl m)
  refine progresses_bind progresses_skip_anywhere fun _ => ?_
  exact progresses_bind progresses_skip_anywhere fun _ => progresses_pure (Nat.le_refl m)

lemma progresses_importedName : Phrasing.Progresses m P importedName fun _ => m - 1 := by
  refine progresses_bind progresses_nameTarget fun name => ?_
  dsimp only
  refine progresses_ite (fun _ => progresses_fail_bind rfl _) fun _ => progresses_ifSkip ?_ ?_
  · exact progresses_bind progresses_nameTarget fun name => progresses_pure (by omega)
  · exact progresses_pure (Nat.le_refl _)

/-- What stands behind a terminal that may have to be taken first. -/
lemma progresses_behind {c : Prop} [Decidable c] {w : Wanted} {β : Type} {q : Phrasing β}
    {n : β → Nat} (hq : ∀ {P' : Stream → Prop} (j : Nat), j ≤ m → Phrasing.Progresses j P' q n) :
    Phrasing.Progresses m P (if c then expect w >>= fun _ => q else q) n :=
  progresses_ite (fun _ => progresses_bind progresses_expect fun _ => hq _ (Nat.sub_le m 1))
    fun _ => hq m (Nat.le_refl m)

/-- An imported name is taken in every round. -/
lemma progresses_importedNames : Phrasing.Progresses m P importedNames fun _ => m := by
  refine progresses_rounds (fun k _ names => ?_) _
  dsimp only
  -- there is no comma before the first name
  refine progresses_behind fun j hj => progresses_shape fun s => ?_
  refine progresses_behind fun i hi => progresses_bind progresses_context fun c => ?_
  have hi : i ≤ k := Nat.le_trans hi hj
  split
  · exact progresses_pure hi
  · refine progresses_bind progresses_importedName fun name =>
      progresses_bind progresses_context fun c => ?_
    split
    · exact progresses_pure (Nat.le_trans (Nat.sub_le i 1) hi)
    · exact progresses_at? fun s => progresses_ite
        (fun _ => progresses_pure (Nat.sub_le_sub_right hi 1)) fun _ =>
        progresses_pure (Nat.le_trans (Nat.sub_le i 1) hi)

end

/-! ### Readings -/

variable {α β : Type}

/-- From the given streams, with fewer than `m` terminals left, a reading comes to a result or to a
fault that the stream explains. With a result, fewer than `n` terminals are left. -/
def Progresses (m : Nat) (P : Stream → Prop) (p : Reading α) (n : Nat) : Prop :=
  ∀ s : Progress, P s.stream → s.stream.Orderly → s.stream.left < m →
    s.stream.left < s.stream.bound →
    (∀ f s', p.run s = (.error f, s') → s.stream.Explains f) ∧
      ∀ a s', p.run s = (.ok a, s') → s.stream.Leads s'.stream ∧ s'.stream.left < n

/-- A place where nodes can begin. -/
def AtNode : Stream → Prop := fun st => st.current.shape.beginsNode

section

variable {m n k : Nat} {P P' : Stream → Prop} {p : Reading α} {f : α → Reading β}

lemma run_bind_eq_error {s s' : Progress} {e : Fault} (h : (p >>= f).run s = (.error e, s')) :
    p.run s = (.error e, s') ∨
      ∃ a s₁, p.run s = (.ok a, s₁) ∧ (f a).run s₁ = (.error e, s') := by
  have hrun : (p >>= f).run s = ExceptT.bindCont f (p.run s).1 (p.run s).2 := rfl
  rw [hrun] at h
  rcases hp : p.run s with ⟨e' | a, s₁⟩ <;> rw [hp] at h
  · cases h
    exact .inl rfl
  · exact .inr ⟨a, s₁, rfl, h⟩

lemma run_phrase_eq_error {q : Phrasing α} {s s' : Progress} {e : Fault}
    (h : (liftM q : Reading α).run s = (.error e, s')) : q.run s.stream = .error e := by
  have hrun : (liftM q : Reading α).run s = (Reading.phrase q).run s := rfl
  rw [hrun] at h
  simp only [Reading.phrase, ExceptT.run_mk, StateT.run] at h
  cases hq : q s.stream with
  | error e' =>
    rw [hq] at h
    cases h
    exact hq
  | ok r =>
    rw [hq] at h
    cases h

lemma Progresses.mono (h : Progresses m P p n) (hn : n ≤ k) : Progresses m P p k :=
  fun s hP ho hm hb => ⟨(h s hP ho hm hb).1, fun a s' hr =>
    ⟨((h s hP ho hm hb).2 a s' hr).1, Nat.lt_of_lt_of_le ((h s hP ho hm hb).2 a s' hr).2 hn⟩⟩

lemma Progresses.weaken (h : Progresses m P p n) (hP : ∀ st, P' st → P st) :
    Progresses m P' p n := fun s hP' => h s (hP _ hP')

lemma progresses_lift {q : Phrasing α} (h : Phrasing.Progresses m P q fun _ => n) :
    Progresses m P (liftM q) n := by
  intro s hP _ hm hb
  obtain ⟨herror, hok⟩ := h s.stream hP hm hb
  refine ⟨fun e s' he => herror e (run_phrase_eq_error he), fun a s' hr => ?_⟩
  obtain ⟨st, hq, rfl⟩ := run_phrase_eq_ok hr
  exact hok a st hq

lemma progresses_pure {a : α} (h : m ≤ n) : Progresses m P (pure a) n := by
  intro s _ _ hm _
  refine ⟨fun e s' he => ?_, fun b s' hr => ?_⟩
  · cases he
  · cases hr
    exact ⟨.refl, Nat.lt_of_lt_of_le hm h⟩

/-- A reading and what follows it, where the first one leads to given streams. -/
lemma progresses_bind_to (hp : Progresses m P p n)
    (hP' : ∀ s a s', P s.stream → s.stream.Orderly → p.run s = (.ok a, s') → P' s'.stream)
    (hf : ∀ a, Progresses n P' (f a) k) : Progresses m P (p >>= f) k := by
  intro s hP ho hm hb
  obtain ⟨herror, hok⟩ := hp s hP ho hm hb
  have hrest : ∀ a s₁, p.run s = (.ok a, s₁) → s.stream.Leads s₁.stream ∧
      (∀ e s', (f a).run s₁ = (.error e, s') → s₁.stream.Explains e) ∧
        ∀ b s', (f a).run s₁ = (.ok b, s') →
          s₁.stream.Leads s'.stream ∧ s'.stream.left < k := by
    intro a s₁ h₁
    obtain ⟨hleads, hleft⟩ := hok a s₁ h₁
    have hle := Stream.left_le_of_leads hleads
    have hbound := Stream.bound_of_leads hleads
    exact ⟨hleads, hf a s₁ (hP' s a s₁ hP ho h₁) (ho.leads hleads) hleft (by omega)⟩
  refine ⟨fun e s' he => ?_, fun b s' hr => ?_⟩
  · rcases run_bind_eq_error he with h₁ | ⟨a, s₁, h₁, h₂⟩
    · exact herror e s' h₁
    · obtain ⟨hleads, hexplains, -⟩ := hrest a s₁ h₁
      exact (hexplains e s' h₂).of_leads hleads
  · obtain ⟨a, s₁, h₁, h₂⟩ := run_bind_eq_ok hr
    obtain ⟨hleads, -, hok'⟩ := hrest a s₁ h₁
    exact ⟨hleads.trans (hok' b s' h₂).1, (hok' b s' h₂).2⟩

lemma progresses_bind (hp : Progresses m P p n) (hf : ∀ a, Progresses n Anywhere (f a) k) :
    Progresses m P (p >>= f) k :=
  progresses_bind_to hp (fun _ _ _ _ _ _ => trivial) hf

lemma progresses_map {g : α → β} (hp : Progresses m P p n) : Progresses m P (g <$> p) n := by
  rw [← bind_pure_comp]
  exact progresses_bind hp fun a => progresses_pure (Nat.le_refl n)

lemma progresses_ite {c : Prop} [Decidable c] {q : Reading α} (hp : Progresses m P p n)
    (hq : Progresses m P q n) : Progresses m P (if c then p else q) n := by
  split
  · exact hp
  · exact hq

lemma progresses_fail {cause : Cause} (h : cause.isPhrasal) (line : Nat) :
    Progresses m P (liftM (fail cause line : Phrasing α)) n :=
  progresses_lift (Phrasing.progresses_fail h line)

lemma progresses_fail_bind {cause : Cause} (h : cause.isPhrasal) (line : Nat) :
    Progresses m P ((liftM (fail cause line : Phrasing α) : Reading α) >>= f) n :=
  progresses_bind (n := 0) (progresses_fail h line) fun _ _ _ _ hm => absurd hm (Nat.not_lt_zero _)

lemma progresses_failHere_bind {cause : Cause} (h : cause.isPhrasal) :
    Progresses m P ((liftM (failHere cause : Phrasing α) : Reading α) >>= f) n :=
  progresses_bind (n := 0) (progresses_lift (Phrasing.progresses_failHere h))
    fun _ _ _ _ hm => absurd hm (Nat.not_lt_zero _)

/-- A look at the stream, where it does not matter what is seen. -/
lemma progresses_look_bind {q : Stream → α} (h : ∀ a, Progresses m P (f a) n) :
    Progresses m P ((liftM (do return q (← get) : Phrasing α) : Reading α) >>= f) n :=
  fun s hP ho hm hb => h (q s.stream) s hP ho hm hb

lemma progresses_current {f : Terminal → Reading β}
    (h : ∀ t, Progresses m (fun st => P st ∧ st.current = t) (f t) n) :
    Progresses m P (liftM current >>= f) n :=
  fun s hP ho hm hb => h s.stream.current s ⟨hP, rfl⟩ ho hm hb

lemma progresses_next : Progresses m P (liftM next) m := progresses_lift progresses_next_anywhere

/-- Behind the end of a tag nodes can begin. -/
lemma progresses_expect_end {w : Wanted} (hw : w = .blockEnd ∨ w = .variableEnd)
    {f : Terminal → Reading β} (hf : ∀ t, Progresses (m - 1) AtNode (f t) n) :
    Progresses m P (liftM (expect w) >>= f) n := by
  refine progresses_bind_to (progresses_lift progresses_expect) (fun s t s' _ ho hr => ?_) hf
  obtain ⟨st, hq, rfl⟩ := run_phrase_eq_ok hr
  obtain ⟨t', st₁, ht, h₂⟩ := Phrasing.run_bind_eq_ok hq
  cases ht
  split at h₂
  · next hfits =>
    refine (ho.advance (run_next_eq_ok h₂).2).2 ?_
    rcases hw with rfl | rfl <;> cases hs : s.stream.current.shape <;> rw [hs] at hfits <;>
      first | rfl | cases hfits
  · cases h₂

end

/-! ### Bodies -/

/-- Nodes are read to the end of a body from wherever they can begin. -/
def Bodies (self : Search → Reading (List Node × Nat)) (m : Nat) : Prop :=
  ∀ k ≤ m, ∀ search, Progresses k AtNode (self search) k

section

variable {self : Search → Reading (List Node × Nat)} {search : Search} {m k : Nat}
  {P : Stream → Prop} (hself : Bodies self m)

include hself

lemma progresses_bodyUpTo (hk : k ≤ m) {ends : List String} :
    Progresses k P (bodyUpTo self search ends) k := by
  refine progresses_bind (progresses_lift progresses_skipIf_le) fun _ => ?_
  refine progresses_expect_end (.inl rfl) fun opening => ?_
  refine progresses_bind (hself _ (by omega) _) fun r => ?_
  refine progresses_look_bind fun shape => ?_
  exact progresses_ite (progresses_failHere_bind rfl) (progresses_pure (Nat.sub_le k 1))

lemma progresses_body (hk : k ≤ m) {tag : String} : Progresses k P (body self search tag) k := by
  refine progresses_bind (progresses_bodyUpTo hself hk) fun b => ?_
  exact progresses_bind (progresses_lift progresses_skip_anywhere) fun _ =>
    progresses_pure (Nat.le_refl k)

/-! ### Statements -/

lemma progresses_loop : Progresses m P (loop self search) m := by
  refine progresses_bind progresses_next fun tag => ?_
  refine progresses_bind (progresses_lift (progresses_target _ _)) fun target => ?_
  refine progresses_bind (progresses_lift progresses_expect) fun _ => ?_
  refine progresses_bind (progresses_lift (progresses_tuple _)) fun items => ?_
  refine progresses_bind (progresses_lift progresses_skipIf_le) fun hasTest => ?_
  -- what follows the test, of which there may be none
  have hrest : ∀ j ≤ m, ∀ test, Progresses j Anywhere (do
      let isRecursive ← skipIf (.word "recursive")
      let b ← bodyUpTo self search ["endfor", "else"]
      let ending ← next
      let other ← do
        if ending.shape.isWord ["endfor"] then pure []
        else pure (← body self search "endfor").nodes
      return nodeAt tag.line .forLoop [.node target, .node items, .nodes b.nodes, .nodes other,
        .ofOption test, .bool isRecursive]) m := by
    intro j hj test
    refine progresses_bind (progresses_lift progresses_skipIf_le) fun isRecursive => ?_
    refine progresses_bind (progresses_bodyUpTo hself hj) fun b => ?_
    refine progresses_bind progresses_next fun ending => ?_
    refine progresses_ite (progresses_bind (progresses_pure (Nat.le_refl j)) fun other =>
      progresses_pure hj) ?_
    refine progresses_bind (progresses_body hself hj) fun b' => ?_
    exact progresses_bind (progresses_pure (Nat.le_refl j)) fun other => progresses_pure hj
  refine progresses_ite ?_ ?_
  · exact progresses_bind (progresses_map (progresses_lift progresses_expression)) fun test =>
      hrest _ (by omega) test
  · exact progresses_bind (progresses_pure (Nat.le_refl _)) fun test => hrest _ (by omega) test

/-- Every further condition takes a terminal. -/
lemma progresses_branches {rounds : Nat} (hk : k ≤ m) (hrounds : k ≤ rounds) :
    Progresses k P (branches self search rounds) k := by
  induction rounds generalizing k P with
  | zero => exact fun s _ _ hleft => absurd hleft (by omega)
  | succ rounds ih =>
    refine progresses_bind (progresses_lift (progresses_tuple _)) fun test => ?_
    refine progresses_bind (progresses_bodyUpTo hself (by omega)) fun b => ?_
    refine progresses_bind progresses_next fun ending => ?_
    refine progresses_ite ?_ (progresses_ite ?_ (progresses_pure (Nat.sub_le k 1)))
    · refine progresses_look_bind fun start => ?_
      exact progresses_bind (ih (by omega) (by omega)) fun more =>
        progresses_pure (Nat.sub_le k 1)
    · exact progresses_bind (progresses_body hself (by omega)) fun b' =>
        progresses_pure (Nat.sub_le k 1)

lemma progresses_branch : Progresses m P (branch self search) m := by
  refine progresses_bind progresses_next fun tag s hP ho hm hb => ?_
  -- the rounds are bounded by the stream, so only as many terminals count as are left
  have hbranches : Progresses (s.stream.left + 1) Anywhere
      (branches self search s.stream.bound) (s.stream.left + 1) :=
    progresses_branches hself hm hb
  exact progresses_bind hbranches (fun more => progresses_pure hm) s hP ho (Nat.lt_succ_self _) hb

lemma progresses_block : Progresses m P (block self search) m := by
  refine progresses_bind progresses_next fun tag => ?_
  refine progresses_bind (progresses_lift progresses_expectName) fun name => ?_
  refine progresses_bind (progresses_lift progresses_skipIf_le) fun isScoped => ?_
  refine progresses_bind (progresses_lift progresses_skipIf_le) fun isRequired => ?_
  refine progresses_look_bind fun hasHyphen => ?_
  refine progresses_ite (progresses_failHere_bind rfl) ?_
  refine progresses_bind (progresses_body hself (Nat.sub_le m 1)) fun b => ?_
  refine progresses_ite (progresses_failHere_bind rfl) ?_
  exact progresses_bind (progresses_lift progresses_skipIf_le) fun _ =>
    progresses_pure (Nat.sub_le m 1)

lemma progresses_macroDef : Progresses m P (macroDef self search) m := by
  refine progresses_bind progresses_next fun tag => ?_
  refine progresses_bind (progresses_lift progresses_nameTarget) fun name => ?_
  refine progresses_bind (progresses_lift progresses_signature) fun parameters => ?_
  exact progresses_bind (progresses_body hself (by omega)) fun b => progresses_pure (by omega)

lemma progresses_callBlock : Progresses m P (callBlock self search) m := by
  refine progresses_bind progresses_next fun tag => ?_
  have hrest : ∀ j ≤ m, ∀ args defaults : List Node, Progresses j Anywhere (do
      let call ← expression
      if call.kind != .call then fail .noCall tag.line
      let b ← body self search "endcall"
      return nodeAt tag.line .callBlock [.node call, .nodes args, .nodes defaults,
        .nodes b.nodes]) m := by
    intro j hj args defaults
    refine progresses_bind (progresses_lift progresses_expression) fun call => ?_
    refine progresses_ite (progresses_fail_bind rfl _) ?_
    exact progresses_bind (progresses_body hself (by omega)) fun b => progresses_pure (by omega)
  refine progresses_look_bind fun hasSignature => progresses_ite ?_ ?_
  · exact progresses_bind (progresses_lift progresses_signature) fun parameters =>
      hrest _ (Nat.sub_le m 1) _ _
  · exact progresses_bind (progresses_pure (Nat.le_refl m)) fun parameters =>
      hrest m (Nat.le_refl m) _ _

lemma progresses_filterBlock : Progresses m P (filterBlock self search) m := by
  refine progresses_bind progresses_next fun tag => ?_
  refine progresses_bind
    (progresses_lift (Expression.progresses_filter (parts_phrase m) none)) fun first => ?_
  refine progresses_bind
    (progresses_lift (Expression.progresses_piped (parts_phrase _) _)) fun filter => ?_
  exact progresses_bind (progresses_body hself (Nat.sub_le m 1)) fun b =>
    progresses_pure (Nat.sub_le m 1)

lemma progresses_assignment : Progresses m P (assignment self search) m := by
  refine progresses_bind progresses_next fun tag => ?_
  refine progresses_bind (progresses_lift (progresses_target _ _)) fun target => ?_
  refine progresses_bind (progresses_lift progresses_skipIf_le) fun hasValue =>
    progresses_ite ?_ ?_
  · exact progresses_bind (progresses_lift (progresses_tuple _)) fun value =>
      progresses_pure (by omega)
  · refine progresses_bind
      (progresses_lift (Expression.progresses_piped (parts_phrase _) _)) fun filter => ?_
    exact progresses_bind (progresses_body hself (Nat.sub_le m 1)) fun b =>
      progresses_pure (Nat.sub_le m 1)

lemma progresses_withScope : Progresses m P (withScope self search) m := by
  refine progresses_bind progresses_next fun tag => ?_
  refine progresses_bind (progresses_lift (progresses_items fun k _ _ => ?_)) fun ps => ?_
  · refine Phrasing.progresses_bind (progresses_target _ _) fun target => ?_
    refine Phrasing.progresses_bind progresses_expect fun _ => ?_
    exact Phrasing.progresses_bind progresses_expression fun value =>
      Phrasing.progresses_pure (by omega)
  · exact progresses_bind (progresses_body hself (Nat.le_refl m)) fun b =>
      progresses_pure (Nat.le_refl m)

lemma progresses_autoescape : Progresses m P (autoescape self search) m := by
  refine progresses_bind progresses_next fun tag => ?_
  refine progresses_bind (progresses_lift progresses_expression) fun value => ?_
  exact progresses_bind (progresses_body hself (Nat.sub_le m 1)) fun b =>
    progresses_pure (Nat.sub_le m 1)

omit hself in
/-- What only counts and marks leaves the stream as it is. -/
lemma progresses_modify {α β : Type} {p : Reading α} {f : α → Reading β} {n : Nat}
    (hp : ∀ s, ∃ a s', p.run s = (.ok a, s') ∧ s'.stream = s.stream)
    (hf : ∀ a, Progresses m P (f a) n) : Progresses m P (p >>= f) n := by
  intro s hP ho hm hb
  obtain ⟨a, s', hrun, hstream⟩ := hp s
  have hbind : (p >>= f).run s = (f a).run s' := by
    show ExceptT.bindCont f (p.run s).1 (p.run s).2 = _
    rw [hrun]
    rfl
  rw [hbind, ← hstream]
  rw [← hstream] at hP ho hm hb
  exact hf a s' hP ho hm hb

lemma progresses_lintRegion : Progresses m P (lintRegion self search) m := by
  refine progresses_bind progresses_next fun tag => ?_
  refine progresses_modify (fun s => ⟨_, _, rfl, rfl⟩) fun ordinal => ?_
  refine progresses_bind (progresses_body hself (Nat.le_refl m)) fun b => ?_
  exact progresses_modify (fun s => ⟨_, _, rfl, rfl⟩) fun _ => progresses_pure (Nat.le_refl m)

lemma progresses_inspectRegion : Progresses m P (inspectRegion self search) m := by
  refine progresses_bind progresses_next fun tag => ?_
  refine progresses_bind (progresses_body hself (Nat.le_refl m)) fun b => ?_
  exact progresses_modify (fun s => ⟨_, _, rfl, rfl⟩) fun _ => progresses_pure (Nat.le_refl m)

omit hself

lemma progresses_extend : Progresses m P extend m := by
  refine progresses_bind progresses_next fun tag => ?_
  exact progresses_bind (progresses_lift progresses_expression) fun value =>
    progresses_pure (Nat.sub_le m 1)

lemma progresses_print : Progresses m P print m := by
  refine progresses_bind progresses_next fun tag => ?_
  exact progresses_bind (progresses_lift (progresses_items fun _ _ _ => progresses_expression))
    fun es => progresses_pure (Nat.le_refl m)

lemma progresses_inclusion : Progresses m P inclusion m := by
  refine progresses_bind progresses_next fun tag => ?_
  refine progresses_bind (progresses_lift progresses_expression) fun template => ?_
  refine progresses_bind (progresses_lift progresses_ignores) fun ignoreMissing => ?_
  exact progresses_bind (progresses_lift (progresses_contextAfterName _)) fun withContext =>
    progresses_pure (Nat.sub_le m 1)

lemma progresses_importModule : Progresses m P importModule m := by
  refine progresses_bind progresses_next fun tag => ?_
  refine progresses_bind (progresses_lift progresses_expression) fun template => ?_
  refine progresses_bind (progresses_lift progresses_expect) fun _ => ?_
  refine progresses_bind (progresses_lift progresses_nameTarget) fun target => ?_
  exact progresses_bind (progresses_lift (progresses_contextAfterName _)) fun withContext =>
    progresses_pure (by omega)

lemma progresses_fromImport : Progresses m P fromImport m := by
  refine progresses_bind progresses_next fun tag => ?_
  refine progresses_bind (progresses_lift progresses_expression) fun template => ?_
  refine progresses_bind (progresses_lift progresses_expect) fun _ => ?_
  exact progresses_bind (progresses_lift progresses_importedNames) fun names =>
    progresses_pure (by omega)

lemma progresses_doStatement : Progresses m P doStatement m := by
  refine progresses_bind progresses_next fun tag => ?_
  exact progresses_bind (progresses_lift (progresses_tuple _)) fun value =>
    progresses_pure (Nat.sub_le m 1)

lemma progresses_loopControl (tag : String) : Progresses m P (loopControl tag) m :=
  progresses_bind progresses_next fun _ => progresses_pure (Nat.le_refl m)

lemma progresses_debug : Progresses m P debug m :=
  progresses_bind progresses_next fun _ => progresses_pure (Nat.le_refl m)

include hself

lemma progresses_standardStatement {tag : String} {p : Reading Node}
    (h : standardStatement? self search tag = some p) : Progresses m P p m := by
  unfold standardStatement? at h
  split at h <;> cases h
  · exact progresses_loop hself
  · exact progresses_branch hself
  · exact progresses_block hself
  · exact progresses_extend
  · exact progresses_print
  · exact progresses_macroDef hself
  · exact progresses_inclusion
  · exact progresses_fromImport
  · exact progresses_importModule
  · exact progresses_assignment hself
  · exact progresses_withScope hself
  · exact progresses_autoescape hself
  · exact progresses_callBlock hself
  · exact progresses_filterBlock hself

lemma progresses_extensionStatement (e : Extension) (tag : String) :
    Progresses m P (extensionStatement self search e tag) m := by
  cases e with
  | lint => exact progresses_lintRegion hself
  | inspect => exact progresses_inspectRegion hself
  | doStatement => exact progresses_map progresses_doStatement
  | loopControls => exact progresses_map (progresses_loopControl tag)
  | debug => exact progresses_map progresses_debug

lemma progresses_statement (es : List Extension) :
    Progresses m P (statement self search es) m := by
  refine progresses_current fun t => ?_
  split
  · dsimp only
    split
    · next p hp => exact progresses_map (progresses_standardStatement hself hp)
    · split
      · next e _ => exact progresses_extensionStatement hself e _
      · exact progresses_fail rfl _
  · exact progresses_fail rfl _

end

/-! ### Nodes -/

/-- **Nodes make progress from wherever they can begin.** The induction is on the rounds, which are
at least as many as the terminals. -/
theorem progresses_nodes (es : List Extension) {rounds m : Nat} (hm : m ≤ rounds)
    (pieces : List Node) (search : Search) :
    Progresses m AtNode (nodes es rounds pieces search) m := by
  induction rounds generalizing m pieces search with
  | zero => exact fun s _ _ hleft => absurd hleft (by omega)
  | succ rounds ih =>
    have hself : Bodies (fun search => nodes es rounds [] search) (m - 1) := fun k hk search =>
      ih (by omega) [] search
    have hnext : ∀ pieces, Progresses (m - 1) AtNode (nodes es rounds pieces search) m :=
      fun pieces => (ih (by omega) pieces search).mono (Nat.sub_le m 1)
    refine progresses_current fun t => ?_
    split
    · next text ht =>
      refine progresses_bind_to (progresses_lift (progresses_skip_current (by simp [ht])))
        (fun s _ s' hs ho hr => ?_) fun _ => hnext _
      obtain ⟨st, hskip, rfl⟩ := run_phrase_eq_ok hr
      refine (ho.advance (run_skip_eq_ok hskip)).2 ?_
      rw [hs.2, ht]
      rfl
    · next ht =>
      refine progresses_bind (progresses_lift (progresses_skip_current (by simp [ht]))) fun _ => ?_
      refine progresses_bind (progresses_lift (progresses_tuple _)) fun e => ?_
      refine progresses_expect_end (.inr rfl) fun _ => ?_
      exact ((ih (by omega) _ search).mono (by omega))
    · next ht =>
      refine progresses_bind (progresses_lift (progresses_skip_current (by simp [ht]))) fun _ => ?_
      refine progresses_look_bind fun shape =>
        progresses_ite (progresses_pure (Nat.sub_le m 1)) ?_
      refine progresses_bind (progresses_statement hself es) fun ns => ?_
      refine progresses_expect_end (.inl rfl) fun _ => ?_
      refine progresses_bind (ih (by omega) [] search) fun rest => progresses_pure (by omega)
    · exact progresses_pure (Nat.le_refl m)
    · next hdata hvariable hblock hfinish =>
      -- no node begins with any other terminal
      rintro s ⟨hnode, rfl⟩
      rw [AtNode] at hnode
      cases hs : s.stream.current.shape <;> rw [hs] at hnode <;>
        first | cases hnode; done | exact absurd hs (by simp_all)

/-- **A template makes progress from its first terminal on.** -/
theorem progresses_template (es : List Extension) (m : Nat) :
    Progresses m AtNode (template es) m := by
  intro s hP ho hm hb
  have hnodes : Progresses (s.stream.left + 1) AtNode
      (nodes es s.stream.bound [] ⟨none, []⟩) (s.stream.left + 1) := progresses_nodes es hb [] _
  exact progresses_bind hnodes (fun r => progresses_pure hm) s hP ho (Nat.lt_succ_self _) hb

end Reading

end TemplateLint.Grammar
