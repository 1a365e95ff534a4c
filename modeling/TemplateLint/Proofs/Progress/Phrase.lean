import TemplateLint.Proofs.Grammar.Template

/-!
Phrases make progress.

The reader bounds its rounds and its depth by the number of terminals. A phrase progresses if it
comes to a result or to a fault that the template explains, and tells how many terminals are left
then; so a loop whose rounds take terminals never runs out of rounds. There is one lemma for each
way to put phrases together. Main statement: `progresses_loop`.
-/

namespace TemplateLint.Grammar

/-- Whether a cause lies in the phrases of a template: its lexemes are sound, and the reader has
neither lost its way nor come to a bound of its own. -/
def Cause.isPhrasal : Cause → Bool
  | .lexical _ | .misread _ | .stray | .exhausted => false
  | _ => true

namespace Stream

/-- How many terminals are left, the end not counted. -/
def left (st : Stream) : Nat := (st.current :: st.ahead).countP fun t => t.shape != .finish

/-- A fault that stands behind the terminals, or that lies in their phrases. -/
def Explains (st : Stream) (f : Fault) : Prop := st.fault = some f ∨ f.cause.isPhrasal

variable {st st' : Stream}

lemma left_of_advance (h : st.advance = .ok st') :
    st.left = st'.left + if st.current.shape = .finish then 0 else 1 := by
  have hcount : ∀ ts, (st.current :: ts).countP (fun t => t.shape != .finish) =
      ts.countP (fun t => t.shape != .finish) + if st.current.shape = .finish then 0 else 1 := by
    intro ts
    by_cases hs : st.current.shape = .finish <;> simp [hs]
  unfold advance at h
  split at h
  · next t ts ha =>
    cases h
    rw [left, left, ha, hcount]
  · next ha =>
    split at h
    · cases h
    · cases h
      simp [left, ha, List.countP_cons, finishAfter]

lemma left_lt_of_advance (h : st.advance = .ok st') (hs : st.current.shape ≠ .finish) :
    st'.left < st.left := by
  have := left_of_advance h
  rw [if_neg hs] at this
  omega

lemma left_le_of_leads (h : Leads st st') : st'.left ≤ st.left := by
  induction h with
  | refl => exact Nat.le_refl _
  | tail _ hadvance ih =>
    have := left_of_advance hadvance
    omega

lemma bound_of_advance (h : st.advance = .ok st') : st'.bound = st.bound := by
  unfold advance at h
  split at h
  · cases h
    rfl
  · split at h
    · cases h
    · cases h
      rfl

lemma bound_of_leads (h : Leads st st') : st'.bound = st.bound := by
  induction h with
  | refl => rfl
  | tail _ hadvance ih => rw [bound_of_advance hadvance, ih]

lemma fault_of_advance_eq_error {f : Fault} (h : st.advance = .error f) : st.fault = some f := by
  unfold advance at h
  split at h
  · cases h
  · split at h
    · next hf => rw [hf, Except.error.inj h]
    · cases h

lemma fault_of_peek_eq_error {f : Fault} (h : st.peek = .error f) : st.fault = some f := by
  unfold peek at h
  split at h
  · cases h
  · split at h
    · next hf => rw [hf, Except.error.inj h]
    · cases h

lemma Explains.of_leads {f : Fault} (hf : st'.Explains f) (h : Leads st st') : st.Explains f := by
  rwa [Explains, ← fault_of_leads h]

end Stream

namespace Phrasing

variable {α β : Type}

/-- From the given streams, with fewer than `m` terminals left, a phrase comes to a result or to a
fault that the stream explains. With a result `a`, fewer than `Q a` terminals are left. -/
def Progresses (m : Nat) (P : Stream → Prop) (p : Phrasing α) (Q : α → Nat) : Prop :=
  ∀ st, P st → st.left < m → st.left < st.bound →
    (∀ f, p.run st = .error f → st.Explains f) ∧
      ∀ a st', p.run st = .ok (a, st') → st.Leads st' ∧ st'.left < Q a

variable {m : Nat} {P P' : Stream → Prop} {p : Phrasing α} {f : α → Phrasing β} {Q : α → Nat}
  {R : β → Nat}

/-! ### Ways to put phrases together -/

lemma run_bind_eq_error {st : Stream} {e : Fault} (h : (p >>= f).run st = .error e) :
    p.run st = .error e ∨ ∃ a st₁, p.run st = .ok (a, st₁) ∧ (f a).run st₁ = .error e := by
  rw [StateT.run_bind] at h
  cases hp : p.run st with
  | error e' =>
    rw [hp] at h
    cases h
    exact .inl rfl
  | ok r =>
    rw [hp] at h
    exact .inr ⟨r.1, r.2, rfl, h⟩

lemma Progresses.mono (h : Progresses m P p Q) {R : α → Nat} (hQ : ∀ a, Q a ≤ R a) :
    Progresses m P p R := fun st hP hm hb =>
  ⟨(h st hP hm hb).1, fun a st' hr =>
    ⟨((h st hP hm hb).2 a st' hr).1, Nat.lt_of_lt_of_le ((h st hP hm hb).2 a st' hr).2 (hQ a)⟩⟩

lemma Progresses.anywhere (h : Progresses m Anywhere p Q) : Progresses m P p Q :=
  fun st _ => h st trivial

lemma Progresses.weaken (h : Progresses m P p Q) (hP : ∀ st, P' st → P st) :
    Progresses m P' p Q := fun st hP' => h st (hP st hP')

lemma progresses_pure {a : α} (h : m ≤ Q a) : Progresses m P (pure a : Phrasing α) Q := by
  intro st _ hm _
  refine ⟨fun e he => ?_, fun b st' hr => ?_⟩
  · cases he
  · cases hr
    exact ⟨.refl, Nat.lt_of_lt_of_le hm h⟩

lemma progresses_fail {cause : Cause} (h : cause.isPhrasal) (line : Nat) :
    Progresses m P (fail cause line : Phrasing α) Q := by
  intro st _ _ _
  refine ⟨fun e he => ?_, fun b st' hr => by cases hr⟩
  cases he
  exact .inr h

lemma progresses_fail_bind {cause : Cause} (h : cause.isPhrasal)
    (line : Nat) : Progresses m P (fail cause line >>= f) R := by
  intro st _ _ _
  refine ⟨fun e he => ?_, fun b st' hr => by cases hr⟩
  cases he
  exact .inr h

lemma progresses_failHere {cause : Cause} (h : cause.isPhrasal) :
    Progresses m P (failHere cause : Phrasing α) Q := by
  intro st _ _ _
  refine ⟨fun e he => ?_, fun b st' hr => by cases hr⟩
  cases he
  exact .inr h

lemma progresses_failHere_bind {cause : Cause} (h : cause.isPhrasal) :
    Progresses m P (failHere cause >>= f) R := by
  intro st _ _ _
  refine ⟨fun e he => ?_, fun b st' hr => by cases hr⟩
  cases he
  exact .inr h

lemma progresses_bind (hp : Progresses m P p Q) (hf : ∀ a, Progresses (Q a) Anywhere (f a) R) :
    Progresses m P (p >>= f) R := by
  intro st hP hm hb
  obtain ⟨herror, hok⟩ := hp st hP hm hb
  -- the rest starts where the first phrase leads, with as many rounds as before
  have hrest : ∀ a st₁, p.run st = .ok (a, st₁) → st.Leads st₁ ∧
      (∀ e, (f a).run st₁ = .error e → st₁.Explains e) ∧
        ∀ b st', (f a).run st₁ = .ok (b, st') → st₁.Leads st' ∧ st'.left < R b := by
    intro a st₁ h₁
    obtain ⟨hleads, hleft⟩ := hok a st₁ h₁
    have hle := Stream.left_le_of_leads hleads
    have hbound := Stream.bound_of_leads hleads
    exact ⟨hleads, hf a st₁ trivial hleft (by omega)⟩
  refine ⟨fun e he => ?_, fun b st' hr => ?_⟩
  · rcases run_bind_eq_error he with h₁ | ⟨a, st₁, h₁, h₂⟩
    · exact herror e h₁
    · obtain ⟨hleads, hexplains, -⟩ := hrest a st₁ h₁
      exact (hexplains e h₂).of_leads hleads
  · obtain ⟨a, st₁, h₁, h₂⟩ := run_bind_eq_ok hr
    obtain ⟨hleads, -, hok'⟩ := hrest a st₁ h₁
    exact ⟨hleads.trans (hok' b st' h₂).1, (hok' b st' h₂).2⟩

lemma progresses_pure_bind {a : α} (h : Progresses m P (f a) R) :
    Progresses m P (pure a >>= f) R := by
  rwa [pure_bind]

lemma progresses_map {g : α → β} {n : Nat} (hp : Progresses m P p fun _ => n) :
    Progresses m P (g <$> p) fun _ => n := by
  rw [← bind_pure_comp]
  exact progresses_bind hp fun a => progresses_pure (Nat.le_refl _)

lemma progresses_ite {c : Prop} [Decidable c] {q : Phrasing α} (hp : c → Progresses m P p Q)
    (hq : ¬c → Progresses m P q Q) : Progresses m P (if c then p else q) Q := by
  split
  · next h => exact hp h
  · next h => exact hq h

lemma progresses_guard {c : Bool} {cause : Cause} {line : Nat} {f : Unit → Phrasing β}
    (hcause : cause.isPhrasal) (h : Progresses m P (f ()) R) :
    Progresses m P ((if c then pure () else fail cause line : Phrasing Unit) >>= f) R := by
  intro st hP hm hb
  cases c with
  | true => exact h st hP hm hb
  | false =>
    refine ⟨fun e he => ?_, fun b st' hr => ?_⟩
    · cases he
      exact .inr hcause
    · cases hr

/-! ### Looking at the stream -/

lemma progresses_current {f : Terminal → Phrasing β}
    (h : ∀ t, Progresses m (fun st => P st ∧ st.current = t) (f t) R) :
    Progresses m P (current >>= f) R :=
  fun st hP hm hb => h st.current st ⟨hP, rfl⟩ hm hb

lemma progresses_shape {f : Shape → Phrasing β}
    (h : ∀ s, Progresses m (fun st => P st ∧ st.current.shape = s) (f s) R) :
    Progresses m P (shape >>= f) R :=
  fun st hP hm hb => h st.current.shape st ⟨hP, rfl⟩ hm hb

lemma progresses_line {f : Nat → Phrasing β} (h : ∀ n, Progresses m P (f n) R) :
    Progresses m P (line >>= f) R :=
  fun st hP hm hb => h st.current.line st hP hm hb

lemma progresses_at? {w : Wanted} {f : Bool → Phrasing β}
    (h : ∀ s, Progresses m (fun st => P st ∧ st.current.shape = s) (f (w.fits s)) R) :
    Progresses m P (at? w >>= f) R :=
  fun st hP hm hb => h st.current.shape st ⟨hP, rfl⟩ hm hb

lemma progresses_look {f : Terminal → Phrasing β}
    (h : ∀ t, Progresses m (fun st => P st ∧ st.peek = .ok t) (f t) R) :
    Progresses m P (look >>= f) R := by
  intro st hP hm hb
  have hrun : look.run st = st.peek.map fun t => (t, st) := by
    cases hpeek : st.peek <;> simp [look, hpeek] <;> rfl
  have hbind : (look >>= f).run st = (look.run st).bind fun r => (f r.1).run r.2 := rfl
  cases hpeek : st.peek with
  | error e =>
    rw [hrun, hpeek] at hbind
    rw [hbind]
    refine ⟨fun e' he => ?_, fun b st' hr => by cases hr⟩
    cases he
    exact .inl (Stream.fault_of_peek_eq_error hpeek)
  | ok t =>
    rw [hrun, hpeek] at hbind
    rw [hbind]
    exact h t st ⟨hP, hpeek⟩ hm hb

/-! ### Taking terminals -/

/-- Streams that are not at their end. -/
def Onward : Stream → Prop := fun st => st.current.shape ≠ .finish

lemma run_next_eq_error {st : Stream} {e : Fault} (h : next.run st = .error e) :
    st.fault = some e := by
  have hrun : next.run st = st.advance.map fun st' => (st.current, st') := by
    cases ha : st.advance <;> simp [next, ha] <;> rfl
  rw [hrun] at h
  cases ha : st.advance with
  | error e' =>
    rw [ha] at h
    cases h
    exact Stream.fault_of_advance_eq_error ha
  | ok st' =>
    rw [ha] at h
    cases h

lemma progresses_next (hP : ∀ st, P st → Onward st) : Progresses m P next fun _ => m - 1 := by
  intro st hst hm _
  refine ⟨fun e he => .inl (run_next_eq_error he), fun t st' hr => ?_⟩
  have hadvance := (run_next_eq_ok hr).2
  have := Stream.left_lt_of_advance hadvance (hP st hst)
  exact ⟨.single hadvance, by dsimp only; omega⟩

/-- At the end of a stream nothing is taken. -/
lemma progresses_next_anywhere : Progresses m P next fun _ => m := by
  intro st _ hm _
  refine ⟨fun e he => .inl (run_next_eq_error he), fun t st' hr => ?_⟩
  have hadvance := (run_next_eq_ok hr).2
  have := Stream.left_of_advance hadvance
  exact ⟨.single hadvance, by dsimp only; omega⟩

lemma progresses_skip (hP : ∀ st, P st → Onward st) : Progresses m P skip fun _ => m - 1 :=
  progresses_bind (progresses_next hP) fun _ => progresses_pure (Nat.le_refl _)

lemma progresses_skip_anywhere : Progresses m P skip fun _ => m :=
  progresses_bind progresses_next_anywhere fun _ => progresses_pure (Nat.le_refl _)

lemma progresses_skip_shape {s : Shape} (hs : s ≠ .finish) :
    Progresses m (fun st => P st ∧ st.current.shape = s) skip fun _ => m - 1 :=
  progresses_skip fun st hst => by rw [Onward, hst.2]; exact hs

lemma progresses_skip_current {t : Terminal} (hs : t.shape ≠ .finish) :
    Progresses m (fun st => P st ∧ st.current = t) skip fun _ => m - 1 :=
  progresses_skip fun st hst => by rw [Onward, hst.2]; exact hs

lemma ne_finish_of_fits {w : Wanted} {s : Shape} (h : w.fits s = true) : s ≠ .finish := by
  rintro rfl
  cases w <;> cases h

lemma progresses_expect {w : Wanted} : Progresses m P (expect w) fun _ => m - 1 := by
  refine progresses_current fun t => progresses_ite (fun hfits => ?_) fun _ =>
    progresses_fail rfl _
  exact progresses_next fun st hst => by rw [Onward, hst.2]; exact ne_finish_of_fits hfits

lemma progresses_skipIf {w : Wanted} :
    Progresses m P (skipIf w) fun b => if b then m - 1 else m := by
  refine progresses_at? fun s => progresses_ite (fun hfits => ?_) fun _ => ?_
  · exact progresses_bind (progresses_skip_shape (ne_finish_of_fits hfits)) fun _ =>
      progresses_pure (Nat.le_refl _)
  · exact progresses_pure (Nat.le_refl _)

lemma progresses_skipIf_le {w : Wanted} : Progresses m P (skipIf w) fun _ => m :=
  progresses_skipIf.mono fun b => by cases b <;> simp

/-- What is done after a terminal that may be there, if it is there and if it is not. -/
lemma progresses_ifSkip {w : Wanted} {q : Phrasing α} (hp : Progresses (m - 1) Anywhere p Q)
    (hq : Progresses m Anywhere q Q) :
    Progresses m P (skipIf w >>= fun b => if b then p else q) Q := by
  refine progresses_bind progresses_skipIf fun b => ?_
  cases b with
  | true => exact hp
  | false => exact hq

/-- A terminal that is there is taken. -/
lemma progresses_skipIf_of_fits {w : Wanted} {f : Bool → Phrasing β}
    (hP : ∀ st, P st → w.fits st.current.shape = true)
    (h : Progresses (m - 1) Anywhere (f true) R) : Progresses m P (skipIf w >>= f) R := by
  intro st hst hm hb
  have hskip := hP st hst
  have hrun : (skipIf w >>= f).run st = (skip >>= fun _ => f true).run st := by
    simp [skipIf, at?, shape, hskip]
  rw [hrun]
  exact progresses_bind (progresses_skip fun st hst => ne_finish_of_fits (hP st hst)) (fun _ => h)
    st hst hm hb

lemma progresses_expectName : Progresses m P expectName fun _ => m - 1 := by
  refine progresses_current fun t => ?_
  split
  · next hs =>
    exact progresses_bind (progresses_skip_current (by rw [hs]; simp)) fun _ =>
      progresses_pure (Nat.le_refl _)
  · exact progresses_fail rfl _

/-! ### Repetition -/

/-- A loop whose rounds each take a terminal, until there is a result. `B` bounds what is left when
a round starts. The induction is on the rounds that are left, which are more than the terminals. -/
theorem progresses_loop {σ : Type} {step : σ → Phrasing (σ ⊕ β)} (B : σ → Nat)
    (h : ∀ k s, k ≤ B s →
      Progresses k Anywhere (step s) (Sum.elim (fun s' => min (k - 1) (B s')) R))
    {s : σ} (hs : m ≤ B s) : Progresses m P (loop step s) R := by
  have hrounds : ∀ rounds s st, st.left < rounds → st.left < B s → st.left < st.bound →
      (∀ e, (loopFor step rounds s).run st = .error e → st.Explains e) ∧
        ∀ b st', (loopFor step rounds s).run st = .ok (b, st') →
          st.Leads st' ∧ st'.left < R b := by
    intro rounds
    induction rounds with
    | zero => exact fun s st hleft => absurd hleft (Nat.not_lt_zero _)
    | succ rounds ih =>
      intro s st hleft hB hb
      refine progresses_bind (m := st.left + 1) (P := fun st' => st' = st) (p := step s)
        (Q := Sum.elim (fun s' => min st.left (B s')) R)
        ((h (st.left + 1) s hB).weaken fun _ _ => trivial) (fun r => ?_) st rfl
        (Nat.lt_succ_self _) hb
      cases r with
      | inl s' =>
        simp only [Sum.elim_inl]
        intro st₁ _ h₁ hb₁
        exact ih s' st₁ (by omega) (by omega) hb₁
      | inr b => exact progresses_pure (Nat.le_refl _)
  exact fun st _ hm hb => hrounds st.bound s st hb (Nat.lt_of_lt_of_le hm hs) hb

/-- A loop all of whose rounds take a terminal, but the one that gives the result. -/
lemma progresses_rounds {σ : Type} {step : σ → Phrasing (σ ⊕ β)}
    (h : ∀ k ≤ m, ∀ s, Progresses k Anywhere (step s) (Sum.elim (fun _ => k - 1) fun _ => k))
    (s : σ) : Progresses m P (loop step s) fun _ => m := by
  refine progresses_loop (fun _ => m) (fun k s hk => (h k hk s).mono fun r => ?_) (Nat.le_refl m)
  cases r <;> simp <;> omega

lemma progresses_items {close : Wanted} {trailing : Bool} {item : List α → Phrasing α}
    (h : ∀ k ≤ m, ∀ xs, Progresses k Anywhere (item xs) fun _ => k - 1) :
    Progresses m P (items close trailing item) fun _ => m := by
  refine progresses_rounds (fun k hk xs => ?_) []
  have hitem : ∀ j ≤ k, Progresses j Anywhere
      (do return (.inl (xs ++ [← item xs]) : List α ⊕ List α))
      (Sum.elim (fun _ => k - 1) fun _ => k) := fun j hj =>
    progresses_bind (h j (Nat.le_trans hj hk) xs) fun _ =>
      progresses_pure (Nat.sub_le_sub_right hj 1)
  refine progresses_at? fun s => progresses_ite (fun _ => progresses_pure (Nat.le_refl k))
    fun _ => ?_
  dsimp only
  refine progresses_ite (fun _ => ?_) fun _ => (hitem k (Nat.le_refl k)).anywhere
  refine progresses_bind progresses_expect fun _ => ?_
  refine progresses_ite (fun _ => ?_) fun _ => hitem _ (Nat.sub_le k 1)
  exact progresses_at? fun s => progresses_ite (fun _ => progresses_pure (Nat.sub_le k 1))
    fun _ => (hitem _ (Nat.sub_le k 1)).anywhere

end Phrasing

end TemplateLint.Grammar
