import Mathlib.Data.List.Perm.Basic
import TemplateLint.Grammar.Statement
import TemplateLint.Proofs.Block.Edges

/-!
Linted regions and the edges of tags, in balance.

`Balanced` says how the regions that a reader closes go with the edges that it passes: every opening
lint tag starts a region of the next number, and the region ends at the first closing tag that is
left over behind it. Then extracting a block by its number finds the region of that number. Main
statement: `Balanced.matches`.
-/

namespace TemplateLint

/-- Whether an edge has nothing to do with linted regions. -/
def Edge.isPlain (e : Edge) : Bool := !e.opens "lint" && !e.opens "endlint"

namespace Grammar

/-- The number of a linted region. -/
def Region.ordinal? (r : Region) : Option Nat :=
  match r.purpose with
  | .lint k => some k
  | .inspect => none

def linted (rs : List Region) : List Region := rs.filter (·.ordinal?.isSome)

lemma linted_cons_of_lint {r : Region} {k : Nat} (hr : r.purpose = .lint k) (rs : List Region) :
    linted (r :: rs) = r :: linted rs :=
  List.filter_cons_of_pos (by simp [Region.ordinal?, hr])

lemma linted_cons_of_inspect {r : Region} (hr : r.purpose = .inspect) (rs : List Region) :
    linted (r :: rs) = linted rs :=
  List.filter_cons_of_neg (by simp [Region.ordinal?, hr])

lemma mem_linted {r : Region} {rs : List Region} :
    r ∈ linted rs ↔ r ∈ rs ∧ ∃ k, r.purpose = .lint k := by
  unfold linted Region.ordinal?
  cases hr : r.purpose <;> simp [hr]

/-- From edges where some lint tags have been opened to edges where more have been: the regions that
were closed on the way. -/
inductive Balanced : Nat → List Edge → List Region → Nat → List Edge → Prop
  | refl (o : Nat) (es : List Edge) : Balanced o es [] o es
  | plain {o o' : Nat} {e : Edge} {es es' : List Edge} {rs : List Region} (he : e.isPlain)
      (h : Balanced o es rs o' es') : Balanced o (e :: es) rs o' es'
  | inspect {o o' : Nat} {es es' : List Edge} {r : Region} {rs : List Region}
      (hr : r.purpose = .inspect) (h : Balanced o es rs o' es') : Balanced o es (r :: rs) o' es'
  | block {o o₁ o' p q : Nat} {es es₁ es' : List Edge} {r : Region} {rs rs' : List Region}
      (hr : r.purpose = .lint o) (hf : r.first = q + 1)
      (hin : Balanced (o + 1) es rs o₁ (.opening r.stop (some "endlint") :: es₁))
      (h : Balanced o₁ es₁ rs' o' es') :
    Balanced o (.opening p (some "lint") :: .closing q :: es) (rs ++ r :: rs') o' es'

namespace Balanced

variable {o o' o'' : Nat} {es es' es'' : List Edge} {rs rs' : List Region}

lemma trans (h : Balanced o es rs o' es') (h' : Balanced o' es' rs' o'' es'') :
    Balanced o es (rs ++ rs') o'' es'' := by
  induction h with
  | refl => exact h'
  | plain he _ ih => exact .plain he (ih h')
  | inspect hr _ ih => exact .inspect hr (ih h')
  | block hr hf hin _ _ ih =>
    rw [List.append_assoc, List.cons_append]
    exact .block hr hf hin (ih h')

lemma le (h : Balanced o es rs o' es') : o ≤ o' := by
  induction h with
  | refl => exact Nat.le_refl _
  | plain _ _ ih => exact ih
  | inspect _ _ ih => exact ih
  | block _ _ _ _ ih₁ ih₂ => omega

/-! ### Searching edges that are in balance -/

/-- Opening tags with later numbers stand behind. -/
lemma openingAfter_eq (h : Balanced o es rs o' es') {k : Nat} (hk : o' ≤ k) :
    Block.openingAfter "lint" (k - o) es = Block.openingAfter "lint" (k - o') es' := by
  induction h with
  | refl => rfl
  | plain he _ ih =>
    have hopens : Edge.opens "lint" _ = false := (by simpa [Edge.isPlain] using he : _ ∧ _).1
    rw [Block.openingAfter_of_not_opens hopens, ih hk]
  | inspect _ _ ih => exact ih hk
  | @block o o₁ o' p q es es₁ es' r rs rs' hr hf hin h ih₁ ih₂ =>
    have hle := h.le
    have hle₁ := hin.le
    have hnext : k - o = k - (o + 1) + 1 := by omega
    rw [hnext, Block.openingAfter_succ rfl, Block.openingAfter_of_not_opens rfl,
      ih₁ (by omega), Block.openingAfter_of_not_opens rfl, ih₂ hk]

lemma closingPlace_eq (h : Balanced o es rs o' es') (depth : Nat) :
    Block.closingPlace "lint" "endlint" depth es =
      Block.closingPlace "lint" "endlint" depth es' := by
  induction h generalizing depth with
  | refl => rfl
  | @plain o o' e es es' rs he _ ih =>
    rw [← ih]
    cases e with
    | closing => cases depth <;> rfl
    | opening p name =>
      simp only [Edge.isPlain, Edge.opens, Bool.and_eq_true, Bool.not_eq_true'] at he
      cases depth <;> simp [Block.closingPlace, he.1, he.2]
  | inspect _ _ ih => exact ih depth
  | block hr hf hin h ih₁ ih₂ =>
    rw [← ih₂]
    have hinner := ih₁ (depth + 1)
    cases depth <;> simpa [Block.closingPlace] using hinner

lemma found (h : Balanced o es rs o' es') {r : Region} {k : Nat} (hr : r ∈ rs)
    (hk : r.purpose = .lint k) :
    o ≤ k ∧ ∃ q es₁, r.first = q + 1 ∧
      Block.openingAfter "lint" (k - o) es = some (.closing q :: es₁) ∧
      Block.closingPlace "lint" "endlint" 0 es₁ = some r.stop := by
  induction h with
  | refl => cases hr
  | plain he _ ih =>
    obtain ⟨hle, q, es₁, hf, hopen, hclose⟩ := ih hr
    have hopens : Edge.opens "lint" _ = false := (by simpa [Edge.isPlain] using he : _ ∧ _).1
    exact ⟨hle, q, es₁, hf, by rw [Block.openingAfter_of_not_opens hopens, hopen], hclose⟩
  | inspect hi _ ih =>
    rcases List.mem_cons.1 hr with rfl | hr
    · rw [hi] at hk
      cases hk
    · exact ih hr
  | @block o o₁ o' p q es es₁ es' r₀ rs rs' hr₀ hf hin h ih₁ ih₂ =>
    rcases List.mem_append.1 hr with hr | hr
    · obtain ⟨hle, q', es₂, hf', hopen, hclose⟩ := ih₁ hr
      refine ⟨by omega, q', es₂, hf', ?_, hclose⟩
      have hnext : k - o = k - (o + 1) + 1 := by omega
      rw [hnext, Block.openingAfter_succ rfl, Block.openingAfter_of_not_opens rfl, hopen]
    · rcases List.mem_cons.1 hr with rfl | hr
      · rw [hr₀] at hk
        cases hk
        refine ⟨Nat.le_refl _, q, es, hf, ?_, ?_⟩
        · rw [Nat.sub_self, Block.openingAfter_zero rfl]
        · rw [hin.closingPlace_eq]
          rfl
      · obtain ⟨hle, q', es₂, hf', hopen, hclose⟩ := ih₂ hr
        have hle₁ := hin.le
        refine ⟨by omega, q', es₂, hf', ?_, hclose⟩
        have hnext : k - o = k - (o + 1) + 1 := by omega
        rw [hnext, Block.openingAfter_succ rfl, Block.openingAfter_of_not_opens rfl,
          hin.openingAfter_eq hle, Block.openingAfter_of_not_opens rfl, hopen]

/-! ### All regions -/

lemma countP_eq (h : Balanced o es rs o' es') :
    es.countP (·.opens "lint") = (o' - o) + es'.countP (·.opens "lint") := by
  induction h with
  | refl => simp
  | plain he _ ih =>
    have hopens : Edge.opens "lint" _ = false := (by simpa [Edge.isPlain] using he : _ ∧ _).1
    rw [List.countP_cons_of_neg (by simp [hopens]), ih]
  | inspect _ _ ih => exact ih
  | block _ _ hin h ih₁ ih₂ =>
    have hle := h.le
    have hle₁ := hin.le
    rw [List.countP_cons_of_neg (by simp [Edge.opens])] at ih₁
    rw [List.countP_cons_of_pos (by simp [Edge.opens]),
      List.countP_cons_of_neg (by simp [Edge.opens])]
    omega

/-- Every number is given once. -/
lemma ordinals_perm (h : Balanced o es rs o' es') :
    (rs.filterMap Region.ordinal?).Perm (List.range' o (o' - o)) := by
  induction h with
  | refl => simp
  | plain _ _ ih => exact ih
  | inspect hr _ ih => simpa [Region.ordinal?, hr] using ih
  | @block o o₁ o' p q es es₁ es' r rs rs' hr hf hin h ih₁ ih₂ =>
    have hle := h.le
    have hle₁ := hin.le
    have hord : r.ordinal? = some o := by rw [Region.ordinal?, hr]
    have hrange : List.range' o (o' - o) =
        o :: (List.range' (o + 1) (o₁ - (o + 1)) ++ List.range' o₁ (o' - o₁)) := by
      have hlen : o' - o = (o₁ - (o + 1) + (o' - o₁)) + 1 := by omega
      have hmid : o + 1 + (o₁ - (o + 1)) = o₁ := by omega
      rw [hlen, List.range'_succ, ← List.range'_append_1, hmid]
    rw [List.filterMap_append, List.filterMap_cons_some hord, hrange]
    exact List.perm_middle.trans ((ih₁.append ih₂).cons o)

/-- The regions end at edges that were passed, in their order. -/
lemma stops_sublist (h : Balanced o es rs o' es') :
    ∃ passed, es = passed ++ es' ∧
      ((linted rs).map (·.stop)).Sublist (passed.map Edge.place) := by
  induction h with
  | refl => exact ⟨[], rfl, .slnil⟩
  | @plain o o' e es es' rs he _ ih =>
    obtain ⟨passed, rfl, hsub⟩ := ih
    exact ⟨e :: passed, rfl, hsub.cons _⟩
  | @inspect o o' es es' r rs hr _ ih =>
    obtain ⟨passed, hes, hsub⟩ := ih
    refine ⟨passed, hes, ?_⟩
    rwa [linted_cons_of_inspect hr]
  | @block o o₁ o' p q es es₁ es' r rs rs' hr hf hin h ih₁ ih₂ =>
    obtain ⟨passed₁, rfl, hsub₁⟩ := ih₁
    obtain ⟨passed₂, rfl, hsub₂⟩ := ih₂
    refine ⟨.opening p (some "lint") :: .closing q ::
      (passed₁ ++ .opening r.stop (some "endlint") :: passed₂), by simp, ?_⟩
    have hlinted : linted (rs ++ r :: rs') = linted rs ++ r :: linted rs' := by
      rw [linted, List.filter_append]
      exact congrArg (_ ++ ·) (linted_cons_of_lint hr rs')
    rw [hlinted, List.map_append, List.map_cons, List.map_cons, List.map_cons, List.map_append]
    exact ((hsub₁.append (hsub₂.cons_cons r.stop)).cons q).cons p

end Balanced

/-- How the linted regions of a template go with its tokens. -/
structure Matches (rs : List Region) (tokens : List Token) : Prop where
  /-- There is one region for every lint tag, and the numbers are those of the tags. -/
  ordinals : (rs.filterMap Region.ordinal?).Perm (List.range (Block.openings "lint" tokens))
  /-- Regions are closed in the order of their closing tags. -/
  stops : (linted rs).Pairwise fun r r' => r.stop < r'.stop
  /-- A region starts behind the lint tag with its number. -/
  first : ∀ r ∈ rs, ∀ k, r.purpose = .lint k → ∃ opening inTag,
    Block.findOpening "lint" k tokens = some (opening, inTag) ∧
      Block.afterTag inTag = tokens.drop r.first
  /-- A region ends before a closing tag. -/
  stop : ∀ r ∈ rs, ∀ k, r.purpose = .lint k → ∃ closing rest,
    tokens.drop r.stop = closing :: rest ∧ Block.opensNamed "endlint" closing rest
  /-- The block with the number of a region has the tokens of the region. -/
  extract : ∀ r ∈ rs, ∀ k, r.purpose = .lint k → Block.extract tokens k =
    ⟨(tokens.drop r.first).take (r.stop - r.first), none⟩

/-- There are as many numbers as lint tags. -/
lemma Balanced.opened_eq {tokens : List Token} {rs : List Region} {n : Nat}
    (h : Balanced 0 (Block.edges 0 tokens) rs n []) : n = Block.openings "lint" tokens := by
  rw [Block.openings_eq "lint" 0, h.countP_eq]
  rfl

/-- **Regions in balance with the edges of tokens are the blocks of the tokens.** -/
theorem Balanced.matches {tokens : List Token} {rs : List Region} {n : Nat}
    (h : Balanced 0 (Block.edges 0 tokens) rs n []) : Matches rs tokens where
  ordinals := by
    rw [← h.opened_eq, List.range_eq_range']
    exact h.ordinals_perm
  stops := by
    obtain ⟨passed, hpassed, hsub⟩ := h.stops_sublist
    rw [List.append_nil] at hpassed
    rw [← hpassed] at hsub
    exact List.pairwise_map.1 ((Block.pairwise_place 0 tokens).sublist hsub)
  first r hr k hk := by
    obtain ⟨-, q, es, hf, hopen, hclose⟩ := h.found hr hk
    rw [hf]
    exact (Block.extract_of_edges hopen hclose).1
  stop r hr k hk := by
    obtain ⟨-, q, es, hf, hopen, hclose⟩ := h.found hr hk
    exact (Block.extract_of_edges hopen hclose).2.1
  extract r hr k hk := by
    obtain ⟨-, q, es, hf, hopen, hclose⟩ := h.found hr hk
    rw [hf]
    exact (Block.extract_of_edges hopen hclose).2.2

end Grammar

end TemplateLint
