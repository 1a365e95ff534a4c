import Mathlib.Logic.Relation
import TemplateLint.Grammar.Stream
import TemplateLint.Proofs.Lexeme.Tags

/-!
Phrases stay inside of their tag.

What is read by a phrase are names, values and operators, never the begin or the end of a tag. So
the edges of tags that are ahead are the same before and after it (`Within`). There is one lemma for
each way to put phrases together. Main statement: `inside_loop`.
-/

namespace TemplateLint.Grammar

/-- Whether a terminal is the begin or the end of a tag. -/
def Shape.isEdge : Shape → Bool
  | .blockBegin | .blockEnd => true
  | _ => false

namespace Stream

/-- The edges of tags from the current terminal on. -/
def edges (st : Stream) : List Edge := Grammar.edges (st.current :: st.ahead)

/-- Whether a stream comes from another one by going on. -/
def Leads : Stream → Stream → Prop := Relation.ReflTransGen fun a b => a.advance = .ok b

/-- Going on without passing an edge of a tag. -/
structure Within (st st' : Stream) : Prop where
  leads : Leads st st'
  edges : st'.edges = st.edges

variable {st st' st'' : Stream}

lemma Within.refl (st : Stream) : Within st st := ⟨.refl, rfl⟩

lemma Within.trans (h : Within st st') (h' : Within st' st'') : Within st st'' :=
  ⟨h.leads.trans h'.leads, h'.edges.trans h.edges⟩

lemma edges_of_blockBegin (h : st.advance = .ok st') (hs : st.current.shape = .blockBegin) :
    st.edges = .opening st.current.place st'.current.shape.name? :: st'.edges := by
  unfold advance at h
  split at h
  · next t ts ha =>
    cases h
    simp [edges, ha, Grammar.edges, hs, headName?]
  · next ha =>
    split at h
    · cases h
    · cases h
      simp [edges, ha, Grammar.edges, hs, headName?, finishAfter, Shape.name?]

lemma edges_of_blockEnd (h : st.advance = .ok st') (hs : st.current.shape = .blockEnd) :
    st.edges = .closing st.current.place :: st'.edges := by
  unfold advance at h
  split at h
  · next t ts ha =>
    cases h
    simp [edges, ha, Grammar.edges, hs]
  · next ha =>
    split at h
    · cases h
    · cases h
      simp [edges, ha, Grammar.edges, hs, finishAfter]

lemma edges_of_not_isEdge (h : st.advance = .ok st') (hs : st.current.shape.isEdge = false) :
    st'.edges = st.edges := by
  have hcurrent : ∀ ts, Grammar.edges (st.current :: ts) = Grammar.edges ts := by
    intro ts
    rw [Grammar.edges]
    split <;> simp_all [Shape.isEdge]
  unfold advance at h
  split at h
  · next t ts ha =>
    cases h
    simp only [edges, ha, hcurrent]
  · next ha =>
    split at h
    · cases h
    · cases h
      rw [edges, edges, hcurrent, ha]
      rfl

lemma within_advance (h : st.advance = .ok st') (hs : st.current.shape.isEdge = false) :
    Within st st' :=
  ⟨.single h, edges_of_not_isEdge h hs⟩

/-- The terminal behind the current one is the next current one. -/
lemma peek_of_advance (h : st.advance = .ok st') : st.peek = .ok st'.current := by
  cases ha : st.ahead with
  | cons t ts =>
    simp only [advance, ha] at h
    cases h
    simp only [peek, ha]
  | nil =>
    cases hf : st.fault with
    | some f => simp [advance, ha, hf] at h
    | none =>
      simp only [advance, ha, hf] at h
      cases h
      simp only [peek, ha, hf]

end Stream

namespace Phrasing

open Grammar.Stream (Within)

variable {α β : Type}

/-- From the given streams a phrase, if it succeeds, stays inside of its tag. -/
def Inside (P : Stream → Prop) (p : Phrasing α) : Prop :=
  ∀ st a st', P st → p.run st = .ok (a, st') → Within st st'

/-- Any stream. -/
def Anywhere : Stream → Prop := fun _ => True

variable {P Q : Stream → Prop} {p : Phrasing α} {f : α → Phrasing β}

/-! ### Ways to put phrases together -/

lemma run_bind_eq_ok {st st' : Stream} {b : β} (h : (p >>= f).run st = .ok (b, st')) :
    ∃ a st₁, p.run st = .ok (a, st₁) ∧ (f a).run st₁ = .ok (b, st') := by
  rw [StateT.run_bind] at h
  cases hp : p.run st with
  | error e =>
    rw [hp] at h
    cases h
  | ok r =>
    rw [hp] at h
    exact ⟨r.1, r.2, rfl, h⟩

lemma Inside.mono (h : Inside Q p) (hPQ : ∀ st, P st → Q st) : Inside P p :=
  fun st a st' hP => h st a st' (hPQ st hP)

lemma Inside.anywhere (h : Inside Anywhere p) : Inside P p := fun st a st' _ => h st a st' trivial

lemma inside_pure (a : α) : Inside P (pure a : Phrasing α) := by
  intro st b st' _ h
  cases h
  exact .refl st

lemma inside_fail (cause : Cause) (line : Nat) : Inside P (fail cause line : Phrasing α) := by
  intro st b st' _ h
  cases h

lemma inside_failHere (cause : Cause) : Inside P (failHere cause : Phrasing α) := by
  intro st b st' _ h
  cases h

lemma inside_bind (hp : Inside P p) (hf : ∀ a, Inside Anywhere (f a)) : Inside P (p >>= f) := by
  intro st b st' hP h
  obtain ⟨a, st₁, h₁, h₂⟩ := run_bind_eq_ok h
  exact (hp st a st₁ hP h₁).trans (hf a st₁ b st' trivial h₂)

lemma inside_map {g : α → β} (hp : Inside P p) : Inside P (g <$> p) := by
  rw [← bind_pure_comp]
  exact inside_bind hp fun a => inside_pure _

lemma inside_ite {c : Prop} [Decidable c] {q : Phrasing α} (hp : c → Inside P p)
    (hq : ¬c → Inside P q) : Inside P (if c then p else q) := by
  split
  · next h => exact hp h
  · next h => exact hq h

lemma inside_guard {c : Bool} {cause : Cause} {line : Nat} {f : Unit → Phrasing β}
    (h : Inside P (f ())) :
    Inside P ((if c then pure () else fail cause line : Phrasing Unit) >>= f) := by
  intro st b st' hP hr
  cases c
  · obtain ⟨u, st₁, h₁, -⟩ := run_bind_eq_ok hr
    cases h₁
  · exact h st b st' hP hr

/-! ### Looking at the stream -/

lemma inside_current {f : Terminal → Phrasing β}
    (h : ∀ t, Inside (fun st => P st ∧ st.current = t) (f t)) : Inside P (current >>= f) :=
  fun st b st' hP hr => h st.current st b st' ⟨hP, rfl⟩ hr

lemma inside_shape {f : Shape → Phrasing β}
    (h : ∀ s, Inside (fun st => P st ∧ st.current.shape = s) (f s)) : Inside P (shape >>= f) :=
  fun st b st' hP hr => h st.current.shape st b st' ⟨hP, rfl⟩ hr

lemma inside_line {f : Nat → Phrasing β} (h : ∀ n, Inside P (f n)) : Inside P (line >>= f) :=
  fun st b st' hP hr => h st.current.line st b st' hP hr

lemma inside_look {f : Terminal → Phrasing β}
    (h : ∀ t, Inside (fun st => P st ∧ st.peek = .ok t) (f t)) : Inside P (look >>= f) := by
  intro st b st' hP hr
  obtain ⟨t, st₁, h₁, h₂⟩ := run_bind_eq_ok hr
  have hrun : look.run st = st.peek.map fun t => (t, st) := by
    cases hpeek : st.peek <;> simp [look, hpeek] <;> rfl
  cases hpeek : st.peek with
  | error e =>
    rw [hrun, hpeek] at h₁
    cases h₁
  | ok t' =>
    rw [hrun, hpeek] at h₁
    cases h₁
    exact h t st b st' ⟨hP, hpeek⟩ h₂

lemma inside_at? {w : Wanted} {f : Bool → Phrasing β}
    (h : ∀ s, Inside (fun st => P st ∧ st.current.shape = s) (f (w.fits s))) :
    Inside P (at? w >>= f) :=
  fun st b st' hP hr => h st.current.shape st b st' ⟨hP, rfl⟩ hr

/-! ### Taking terminals -/

lemma run_next_eq_ok {st st' : Stream} {t : Terminal} (h : next.run st = .ok (t, st')) :
    t = st.current ∧ st.advance = .ok st' := by
  have hrun : next.run st = st.advance.map fun st' => (st.current, st') := by
    cases ha : st.advance <;> simp [next, ha] <;> rfl
  rw [hrun] at h
  cases ha : st.advance with
  | error e =>
    rw [ha] at h
    cases h
  | ok st₁ =>
    rw [ha] at h
    cases h
    exact ⟨rfl, rfl⟩

/-- Taking a terminal that is no edge of a tag. -/
lemma inside_next {f : Terminal → Phrasing β} (hP : ∀ st, P st → st.current.shape.isEdge = false)
    (hf : ∀ t, Inside Anywhere (f t)) : Inside P (next >>= f) := by
  intro st b st' hst hr
  obtain ⟨t, st₁, h₁, h₂⟩ := run_bind_eq_ok hr
  obtain ⟨rfl, hadvance⟩ := run_next_eq_ok h₁
  exact (Stream.within_advance hadvance (hP st hst)).trans (hf _ st₁ b st' trivial h₂)

lemma run_skip_eq_ok {st st' : Stream} {u : Unit} (h : skip.run st = .ok (u, st')) :
    st.advance = .ok st' := by
  obtain ⟨t, st₁, h₁, h₂⟩ := run_bind_eq_ok h
  cases h₂
  exact (run_next_eq_ok h₁).2

lemma inside_skip {f : Unit → Phrasing β} (hP : ∀ st, P st → st.current.shape.isEdge = false)
    (hf : ∀ st st', P st → st.advance = .ok st' → Q st') (h : Inside Q (f ())) :
    Inside P (skip >>= f) := by
  intro st b st' hst hr
  obtain ⟨u, st₁, h₁, h₂⟩ := run_bind_eq_ok hr
  have hadvance := run_skip_eq_ok h₁
  exact (Stream.within_advance hadvance (hP st hst)).trans (h st₁ b st' (hf st st₁ hst hadvance) h₂)

lemma inside_skip_shape {s : Shape} {f : Unit → Phrasing β} (hs : s.isEdge = false)
    (h : Inside Anywhere (f ())) :
    Inside (fun st => P st ∧ st.current.shape = s) (skip >>= f) :=
  inside_skip (fun st hst => by rw [hst.2, hs]) (fun _ _ _ _ => trivial) h

lemma inside_skip_current {t : Terminal} {f : Unit → Phrasing β} (hs : t.shape.isEdge = false)
    (h : Inside Anywhere (f ())) : Inside (fun st => P st ∧ st.current = t) (skip >>= f) :=
  inside_skip (fun st hst => by rw [hst.2, hs]) (fun _ _ _ _ => trivial) h

/-- Taking two terminals after the second one has been looked at. -/
lemma inside_skip_skip {f : Unit → Phrasing β} (hP : ∀ st, P st → st.current.shape.isEdge = false)
    (hpeek : ∀ st t, P st → st.peek = .ok t → t.shape.isEdge = false)
    (h : Inside Anywhere (f ())) : Inside P (skip >>= fun _ => skip >>= f) := by
  refine inside_skip (Q := fun st => st.current.shape.isEdge = false) hP ?_ ?_
  · exact fun st st' hst hadvance => hpeek st _ hst (Stream.peek_of_advance hadvance)
  · exact inside_skip (fun _ hst => hst) (fun _ _ _ _ => trivial) h

/-- A wanted terminal is an edge of a tag only if an edge is wanted. -/
lemma isEdge_of_fits {w : Wanted} {s : Shape} (h : w.fits s = true) (hw : w ≠ .blockEnd) :
    s.isEdge = false := by
  unfold Wanted.fits at h
  split at h <;> simp_all [Shape.isEdge]

lemma inside_expect {w : Wanted} (hw : w ≠ .blockEnd) : Inside P (expect w) := by
  refine inside_current fun t => inside_ite (fun hfits => ?_) fun _ => inside_fail _ _
  rw [← bind_pure next]
  refine inside_next (fun st hst => ?_) fun _ => inside_pure _
  rw [hst.2]
  exact isEdge_of_fits hfits hw

lemma inside_skipIf {w : Wanted} (hw : w ≠ .blockEnd) : Inside P (skipIf w) := by
  refine inside_at? fun s => inside_ite (fun hfits => ?_) fun _ => inside_pure _
  exact inside_skip_shape (isEdge_of_fits hfits hw) (inside_pure _)

lemma inside_expectName : Inside P expectName := by
  refine inside_current fun t => ?_
  split
  · next hs => exact inside_skip_current (by rw [hs]; rfl) (inside_pure _)
  · exact inside_fail _ _

/-! ### Repetition -/

lemma inside_loop {σ : Type} {step : σ → Phrasing (σ ⊕ β)} (h : ∀ s, Inside Anywhere (step s))
    (s : σ) : Inside P (loop step s) := by
  have hrounds : ∀ rounds s, Inside Anywhere (loopFor step rounds s) := by
    intro rounds
    induction rounds with
    | zero => exact fun _ => inside_failHere _
    | succ rounds ih =>
      intro s
      refine inside_bind (h s) fun r => ?_
      cases r with
      | inl s' => exact ih s'
      | inr b => exact inside_pure b
  intro st b st' _ hr
  exact hrounds st.bound s st b st' trivial hr

lemma inside_items {close : Wanted} {trailing : Bool} {item : List α → Phrasing α}
    (h : ∀ xs, Inside Anywhere (item xs)) : Inside P (items close trailing item) := by
  refine inside_loop (fun xs => ?_) []
  refine inside_at? fun s => inside_ite (fun _ => inside_pure _) fun _ => ?_
  dsimp only
  have hitem : Inside Anywhere (do return (.inl (xs ++ [← item xs]) : List α ⊕ List α)) :=
    inside_bind (h xs) fun _ => inside_pure _
  refine inside_ite (fun _ => ?_) fun _ => hitem.anywhere
  refine inside_bind (inside_expect (by simp)) fun _ => ?_
  refine inside_ite (fun _ => ?_) fun _ => hitem
  exact inside_at? fun s => inside_ite (fun _ => inside_pure _) fun _ => hitem.anywhere

end Phrasing

end TemplateLint.Grammar
