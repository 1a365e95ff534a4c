import TemplateLint.Proofs.Splice.Statement

/-!
Regions inside of others.

Regions are numbered in the order in which they start, and closed in the order in which they end. So
a linted region between the ends of another one has the greater number and is closed first, and then
its body is spliced into the body of the other one. Main statement: `placed_of_read`.
-/

namespace TemplateLint

namespace Block

variable {name : String} {es es' : List Edge}

lemma suffix_of_openingAfter {k : Nat} (h : openingAfter name k es = some es') : es' <:+ es := by
  induction es generalizing k with
  | nil => cases h
  | cons e es ih =>
    by_cases he : e.opens name = true
    · cases k with
      | zero =>
        rw [openingAfter_zero he] at h
        cases h
        exact List.suffix_cons _ _
      | succ k =>
        rw [openingAfter_succ he] at h
        exact (ih h).trans (List.suffix_cons _ _)
    · rw [openingAfter_of_not_opens (by simpa using he)] at h
      exact (ih h).trans (List.suffix_cons _ _)

lemma openingAfter_add {k : Nat} (h : openingAfter name k es = some es') (m : Nat) :
    openingAfter name (k + 1 + m) es = openingAfter name m es' := by
  induction es generalizing k with
  | nil => cases h
  | cons e es ih =>
    by_cases he : e.opens name = true
    · cases k with
      | zero =>
        rw [openingAfter_zero he] at h
        cases h
        rw [Nat.zero_add, Nat.add_comm, openingAfter_succ he]
      | succ k =>
        rw [openingAfter_succ he] at h
        rw [Nat.add_right_comm, openingAfter_succ he, ih h]
    · have he' : e.opens name = false := by simpa using he
      rw [openingAfter_of_not_opens he'] at h ⊢
      exact ih h

end Block

namespace Grammar

/-- Between the ends of another region. -/
def Region.IsWithin (a b : Region) : Prop := b.first ≤ a.first ∧ a.stop ≤ b.stop

variable {rs : List Region} {a b : Region} {i j n : Nat}

section

variable {es : List Edge} (h : Balanced 0 es rs n []) (ha : a ∈ rs) (hi : a.purpose = .lint i)
  (hb : b ∈ rs) (hj : b.purpose = .lint j)

include h ha hi hb hj

lemma Balanced.first_lt_first (hes : (es.map Edge.place).Pairwise (· < ·)) (hij : i < j) :
    a.first < b.first := by
  obtain ⟨-, q, as, ha_first, ha_open, -⟩ := h.found ha hi
  obtain ⟨-, q', bs, hb_first, hb_open, -⟩ := h.found hb hj
  obtain ⟨m, hm⟩ : ∃ m, j - 0 = i - 0 + 1 + m := ⟨j - i - 1, by omega⟩
  rw [hm, Block.openingAfter_add ha_open, Block.openingAfter_of_not_opens rfl] at hb_open
  have hq' : Edge.closing q' ∈ as :=
    (Block.suffix_of_openingAfter hb_open).subset List.mem_cons_self
  have hsorted : ((Edge.closing q :: as).map Edge.place).Pairwise (· < ·) :=
    hes.sublist ((Block.suffix_of_openingAfter ha_open).sublist.map _)
  have hlt : q < q' := List.rel_of_pairwise_cons hsorted (List.mem_map_of_mem hq')
  omega

lemma Balanced.stop_eq_stop (hij : i = j) : a.stop = b.stop := by
  obtain ⟨-, q, as, -, ha_open, ha_close⟩ := h.found ha hi
  obtain ⟨-, q', bs, -, hb_open, hb_close⟩ := h.found hb hj
  rw [hij, hb_open] at ha_open
  cases ha_open
  rw [ha_close] at hb_close
  exact Option.some.inj hb_close

end

/-- **A region that is inside of another one is spliced into it.** -/
theorem Kept.spliced_of_isWithin {tokens : List Token} {bodies : List (List Node)}
    (h : Kept 0 rs n bodies) (hbalanced : Balanced 0 (Block.edges 0 tokens) rs n [])
    (ha : a ∈ rs) (hi : a.purpose = .lint i) (hb : b ∈ rs) (hj : b.purpose = .lint j)
    (hwithin : a.IsWithin b) : Spliced a.body b.body := by
  let R : Region → Region → Prop := fun x y => x.IsWithin y → Spliced x.body y.body
  have hstops := hbalanced.matches.stops
  have hself : ∀ x ∈ linted rs, R x x := fun x _ _ => .refl _
  -- what is closed earlier was opened later, if it is inside
  have hearlier : (linted rs).Pairwise R := by
    have hnested := h.nested.filter (·.ordinal?.isSome)
    refine List.Pairwise.imp_of_mem (fun {x y} hx hy hxy hwithin => ?_) (hstops.and hnested)
    obtain ⟨hx, k, hk⟩ := mem_linted.1 hx
    obtain ⟨hy, m, hm⟩ := mem_linted.1 hy
    refine hxy.2 k m hk hm ?_
    rcases lt_trichotomy k m with hlt | heq | hgt
    · have hfirst := hbalanced.first_lt_first hx hk hy hm (Block.pairwise_place 0 tokens) hlt
      exact absurd hwithin.1 (by omega)
    · have hstop := hbalanced.stop_eq_stop hx hk hy hm heq
      exact absurd hxy.1 (by omega)
    · exact hgt
  -- what is closed later is not inside
  have hlater : (linted rs).Pairwise (flip R) :=
    hstops.imp fun hlt hwithin => absurd hwithin.2 (by omega)
  exact hearlier.forall_of_forall_of_flip hself hlater (mem_linted.2 ⟨ha, i, hi⟩)
    (mem_linted.2 ⟨hb, j, hj⟩) hwithin

/-- How the linted regions of a template are spliced into its tree. -/
structure Placed (rs : List Region) (tree : Node) : Prop where
  template : ∃ ns, tree.walked? = some ns ∧
    ∀ r ∈ rs, ∀ k, r.purpose = .lint k → Spliced r.body ns
  outer : ∀ r ∈ rs, ∀ k, r.purpose = .lint k → ∀ r' ∈ rs, ∀ k', r'.purpose = .lint k' →
    r.IsWithin r' → Spliced r.body r'.body

/-- **The blocks of a template without inspected ones are spliced into its tree** and into the
blocks around them. -/
theorem placed_of_read {d : Dialect} {es : List Extension} {text : String} {tree : Node}
    {tokens : List Token} (htree : (read d es text).tree = .ok tree)
    (htokens : tokenize d text = .ok tokens) (hinspect : Block.openings "inspect" tokens = 0) :
    Matches (read d es text).regions tokens ∧ Placed (read d es text).regions tree := by
  unfold read at htree ⊢
  cases hst : Stream.start d text with
  | error f =>
    rw [hst] at htree
    cases htree
  | ok st =>
    rw [hst] at htree
    dsimp only at htree ⊢
    obtain ⟨tokens', htokens', hedges, hbalanced⟩ := balanced_readFrom hst htree
    rw [htokens] at htokens'
    cases htokens'
    have hst' : st.Uninspected := by
      rw [Block.openings_eq "inspect" 0, ← hedges, List.countP_eq_zero] at hinspect
      exact fun e he => by simpa using hinspect e he
    obtain ⟨ns, hns, hkept⟩ := kept_readFrom hst' htree
    refine ⟨hbalanced.matches, ⟨ns, hns, fun r hr k _ => ?_⟩, fun r hr k hk r' hr' k' hk' hin => ?_⟩
    · obtain ⟨b, hb, hs⟩ := hkept.spliced r hr
      rwa [List.mem_singleton.1 hb] at hs
    · exact hkept.spliced_of_isWithin hbalanced hr hk hr' hk' hin

end Grammar

end TemplateLint
