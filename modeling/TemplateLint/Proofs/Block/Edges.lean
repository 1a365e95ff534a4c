import TemplateLint.Proofs.Lexeme.Tags

/-!
Extracting a block, by the edges of tags alone.

The index looks for the opening tag of a block by its number and for the matching closing tag by
counting. Both only see the edges of tags. Main statement: `extract_of_edges`.
-/

namespace TemplateLint

/-- Whether an edge opens a tag of the given name. -/
def Edge.opens (name : String) : Edge → Bool
  | .opening _ n => n == some name
  | .closing _ => false

def Edge.place : Edge → Nat
  | .opening p _ => p
  | .closing p => p

namespace Block

/-- How many tags of the given name are opened in tokens. -/
def openings (name : String) : List Token → Nat
  | [] => 0
  | t :: ts => (if opensNamed name t ts then 1 else 0) + openings name ts

/-- The edges after the opening edge with the given number. -/
def openingAfter (name : String) : Nat → List Edge → Option (List Edge)
  | _, [] => none
  | k, e :: es =>
    if e.opens name then
      match k with
      | 0 => some es
      | k + 1 => openingAfter name k es
    else openingAfter name k es

/-- The place of the tag that closes the innermost of `depth + 1` open blocks. -/
def closingPlace (beginTag endTag : String) : Nat → List Edge → Option Nat
  | _, [] => none
  | depth, .closing _ :: es => closingPlace beginTag endTag depth es
  | depth, .opening place name :: es =>
    if name == some beginTag then closingPlace beginTag endTag (depth + 1) es
    else if name == some endTag then
      match depth with
      | 0 => some place
      | depth + 1 => closingPlace beginTag endTag depth es
    else closingPlace beginTag endTag depth es

variable {name beginTag endTag : String} {place : Nat} {t : Token} {ts : List Token}
  {es : List Edge}

lemma openingAfter_of_not_opens {e : Edge} (h : e.opens name = false) (k : Nat) :
    openingAfter name k (e :: es) = openingAfter name k es := by
  cases k <;> simp [openingAfter, h]

lemma openingAfter_zero {e : Edge} (h : e.opens name = true) :
    openingAfter name 0 (e :: es) = some es := by
  simp [openingAfter, h]

lemma openingAfter_succ {e : Edge} (h : e.opens name = true) (k : Nat) :
    openingAfter name (k + 1) (e :: es) = openingAfter name k es := by
  simp [openingAfter, h]

/-! ### Edges of a first token -/

lemma edges_of_opensTag (h : opensTag t) :
    edges place (t :: ts) = .opening place (tagName? ts) :: edges (place + 1) ts := by
  rw [edges, if_pos h]

/-- A token that opens no tag makes no edge that does. -/
lemma edges_of_not_opensTag (h : ¬opensTag t) (place : Nat) (ts : List Token) :
    edges place (t :: ts) = edges (place + 1) ts ∨
      edges place (t :: ts) = .closing place :: edges (place + 1) ts := by
  rw [edges, if_neg h]
  split
  · exact Or.inr rfl
  · exact Or.inl rfl

lemma not_opensNamed (h : ¬opensTag t) : opensNamed name t ts = false := by
  simp [opensNamed, h]

lemma opensNamed_eq (h : opensTag t) : opensNamed name t ts = (tagName? ts == some name) := by
  simp [opensNamed, h]

lemma le_place_of_mem {e : Edge} (h : e ∈ edges place ts) : place ≤ e.place := by
  induction ts generalizing place with
  | nil => cases h
  | cons t ts ih =>
    have hrest : e ∈ edges (place + 1) ts → place ≤ e.place := fun h => by
      have := ih h
      omega
    rw [edges] at h
    split at h
    · rcases List.mem_cons.1 h with rfl | h
      · exact Nat.le_refl _
      · exact hrest h
    · split at h
      · rcases List.mem_cons.1 h with rfl | h
        · exact Nat.le_refl _
        · exact hrest h
      · exact hrest h

/-- The places of edges ascend. -/
lemma pairwise_place (place : Nat) (ts : List Token) :
    ((edges place ts).map Edge.place).Pairwise (· < ·) := by
  induction ts generalizing place with
  | nil => exact .nil
  | cons t ts ih =>
    have hfirst : ∀ p ∈ (edges (place + 1) ts).map Edge.place, place < p := by
      intro p hp
      obtain ⟨e, he, rfl⟩ := List.mem_map.1 hp
      exact le_place_of_mem he
    rw [edges]
    split
    · exact .cons hfirst (ih _)
    · split
      · exact .cons hfirst (ih _)
      · exact ih _

lemma edges_suffix (place : Nat) (before ts : List Token) :
    edges (place + before.length) ts <:+ edges place (before ++ ts) := by
  induction before generalizing place with
  | nil => exact List.suffix_rfl
  | cons t before ih =>
    have hrest := ih (place + 1)
    rw [Nat.add_right_comm] at hrest
    rw [List.cons_append, edges]
    split
    · exact hrest.trans (List.suffix_cons _ _)
    · split
      · exact hrest.trans (List.suffix_cons _ _)
      · exact hrest

/-! ### The three searches -/

lemma openings_eq (name : String) (place : Nat) (ts : List Token) :
    openings name ts = (edges place ts).countP (·.opens name) := by
  induction ts generalizing place with
  | nil => rfl
  | cons t ts ih =>
    rw [openings]
    by_cases h : opensTag t
    · rw [edges_of_opensTag h, List.countP_cons, opensNamed_eq h, ih (place + 1), Nat.add_comm]
      rfl
    · rw [not_opensNamed h]
      rcases edges_of_not_opensTag h place ts with he | he <;>
        rw [he, ih (place + 1)] <;> simp [Edge.opens]

lemma opensTag_of_findOpening {name : String} {k : Nat} {tokens inTag : List Token}
    {opening : Token} (h : findOpening name k tokens = some (opening, inTag)) :
    opensTag opening := by
  fun_induction findOpening name k tokens with
  | case1 => cases h
  | case2 t ts hnamed =>
    cases h
    exact (Bool.and_eq_true_iff.1 hnamed).1
  | case3 t ts hnamed k ih => exact ih h
  | case4 k t ts hnamed ih => exact ih h

lemma findOpening_of_edges {k : Nat} (h : openingAfter name k (edges place ts) = some es) :
    ∃ before opening rest, ts = before ++ opening :: rest ∧
      findOpening name k ts = some (opening, rest) ∧
      es = edges (place + before.length + 1) rest := by
  induction ts generalizing place k with
  | nil => cases h
  | cons t ts ih =>
    have hskip : ∀ {k k'}, openingAfter name k (edges (place + 1) ts) = some es →
        findOpening name k' (t :: ts) = findOpening name k ts →
        ∃ before opening rest, t :: ts = before ++ opening :: rest ∧
          findOpening name k' (t :: ts) = some (opening, rest) ∧
          es = edges (place + before.length + 1) rest := by
      intro k k' he hf
      obtain ⟨before, opening, rest, rfl, hfind, rfl⟩ := ih he
      refine ⟨t :: before, opening, rest, rfl, hf.trans hfind, ?_⟩
      rw [List.length_cons]
      congr 1
      omega
    by_cases ho : opensTag t
    · rw [edges_of_opensTag ho] at h
      by_cases hn : tagName? ts = some name
      · have hopens : (Edge.opening place (tagName? ts)).opens name = true := by
          simp [Edge.opens, hn]
        have hnamed : opensNamed name t ts = true := by rw [opensNamed_eq ho]; simp [hn]
        cases k with
        | zero =>
          rw [openingAfter_zero hopens] at h
          cases h
          exact ⟨[], t, ts, rfl, by simp [findOpening, hnamed], rfl⟩
        | succ k =>
          rw [openingAfter_succ hopens] at h
          exact hskip h (by simp [findOpening, hnamed])
      · have hopens : (Edge.opening place (tagName? ts)).opens name = false := by
          simp [Edge.opens, hn]
        have hnamed : opensNamed name t ts = false := by rw [opensNamed_eq ho]; simp [hn]
        rw [openingAfter_of_not_opens hopens] at h
        exact hskip h (by cases k <;> simp [findOpening, hnamed])
    · have hnamed : opensNamed name t ts = false := not_opensNamed ho
      have hrest : openingAfter name k (edges (place + 1) ts) = some es := by
        rcases edges_of_not_opensTag ho place ts with he | he
        · rwa [he] at h
        · rwa [he, openingAfter_of_not_opens rfl] at h
      exact hskip hrest (by cases k <;> simp [findOpening, hnamed])

lemma afterTag_of_edges {q : Nat} (h : edges place ts = .closing q :: es) :
    ∃ before closing, ts = before ++ closing :: afterTag ts ∧ q = place + before.length ∧
      es = edges (q + 1) (afterTag ts) := by
  induction ts generalizing place with
  | nil => cases h
  | cons t ts ih =>
    by_cases ho : opensTag t
    · rw [edges_of_opensTag ho] at h
      cases h
    · rw [edges, if_neg ho] at h
      by_cases hc : closesTag t
      · rw [if_pos hc] at h
        cases h
        have hafter : afterTag (t :: ts) = ts := by rw [afterTag, if_pos hc]
        exact ⟨[], t, by rw [hafter]; rfl, rfl, by rw [hafter]⟩
      · rw [if_neg hc] at h
        have hafter : afterTag (t :: ts) = afterTag ts := by rw [afterTag, if_neg hc]
        obtain ⟨before, closing, hts, rfl, rfl⟩ := ih h
        refine ⟨t :: before, closing, ?_, by rw [List.length_cons]; omega, ?_⟩
        · rw [hafter, List.cons_append, ← hts]
        · rw [hafter]

lemma upToClosing_of_edges {depth stop : Nat}
    (h : closingPlace beginTag endTag depth (edges place ts) = some stop) :
    ∃ inside closing rest, ts = inside ++ closing :: rest ∧ stop = place + inside.length ∧
      upToClosing beginTag endTag depth ts = some inside ∧ opensNamed endTag closing rest := by
  induction ts generalizing place depth with
  | nil => cases h
  | cons t ts ih =>
    have hskip : ∀ {depth'},
        closingPlace beginTag endTag depth' (edges (place + 1) ts) = some stop →
        upToClosing beginTag endTag depth (t :: ts) =
          (t :: ·) <$> upToClosing beginTag endTag depth' ts →
        ∃ inside closing rest, t :: ts = inside ++ closing :: rest ∧ stop = place + inside.length ∧
          upToClosing beginTag endTag depth (t :: ts) = some inside ∧
          opensNamed endTag closing rest := by
      intro depth' he hu
      obtain ⟨inside, closing, rest, rfl, rfl, hup, hclosing⟩ := ih he
      refine ⟨t :: inside, closing, rest, rfl, by rw [List.length_cons]; omega, ?_, hclosing⟩
      rw [hu, hup]
      rfl
    by_cases ho : opensTag t
    · rw [edges_of_opensTag ho] at h
      have hbegin : opensNamed beginTag t ts = (tagName? ts == some beginTag) := opensNamed_eq ho
      have hend : opensNamed endTag t ts = (tagName? ts == some endTag) := opensNamed_eq ho
      by_cases hb : tagName? ts = some beginTag
      · refine @hskip (depth + 1) ?_ ?_
        · cases depth <;> simpa [closingPlace, hb] using h
        · cases depth <;> simp [upToClosing, hbegin, hb]
      · by_cases he : tagName? ts = some endTag
        · have hne : ¬endTag = beginTag := fun heq => hb (heq ▸ he)
          cases depth with
          | zero =>
            have hstop : place = stop := by simpa [closingPlace, he, hne] using h
            exact ⟨[], t, ts, rfl, hstop.symm, by simp [upToClosing, hbegin, hend, he, hne],
              by simp [hend, he]⟩
          | succ depth =>
            refine @hskip depth ?_ ?_
            · simpa [closingPlace, he, hne] using h
            · simp [upToClosing, hbegin, hend, he, hne]
        · refine @hskip depth ?_ ?_
          · cases depth <;> simpa [closingPlace, hb, he] using h
          · cases depth <;> simp [upToClosing, hbegin, hend, hb, he]
    · have hrest : closingPlace beginTag endTag depth (edges (place + 1) ts) = some stop := by
        rcases edges_of_not_opensTag ho place ts with he | he
        · rwa [he] at h
        · rw [he] at h
          cases depth <;> exact h
      exact hskip hrest (by
        cases depth <;> simp [upToClosing, not_opensNamed ho])

/-- **A block is found by the edges of tags.** If the edges have an opening tag with the given
number and a matching closing tag, then extracting the block gives the tokens between them, and
nothing is missing. -/
theorem extract_of_edges {k q stop : Nat}
    (hopen : openingAfter beginTag k (edges 0 ts) = some (.closing q :: es))
    (hclose : closingPlace beginTag endTag 0 es = some stop) :
    (∃ opening inTag, findOpening beginTag k ts = some (opening, inTag) ∧
        afterTag inTag = ts.drop (q + 1)) ∧
      (∃ closing rest, ts.drop stop = closing :: rest ∧ opensNamed endTag closing rest) ∧
      extract ts k beginTag endTag = ⟨(ts.drop (q + 1)).take (stop - (q + 1)), none⟩ := by
  obtain ⟨before, opening, inTag, hts, hfind, hin⟩ := findOpening_of_edges hopen
  obtain ⟨inner, ending, htag, hq, hes⟩ := afterTag_of_edges hin.symm
  obtain ⟨inside, closing, rest, hafter, hstop, hup, hclosing⟩ :=
    upToClosing_of_edges (hes ▸ hclose)
  have hdrop : ts.drop (q + 1) = afterTag inTag := by
    have hsplit : ts = (before ++ opening :: (inner ++ [ending])) ++ afterTag inTag := by
      simp only [List.append_assoc, List.cons_append, List.nil_append]
      rw [← htag]
      exact hts
    have hlen : (before ++ opening :: (inner ++ [ending])).length = q + 1 := by
      simp only [List.length_append, List.length_cons, List.length_nil]
      omega
    conv_lhs => rw [hsplit]
    exact List.drop_left' hlen
  have hstop' : stop - (q + 1) = inside.length := by omega
  refine ⟨⟨opening, inTag, hfind, hdrop.symm⟩, ⟨closing, rest, ?_, hclosing⟩, ?_⟩
  · have hsum : stop = q + 1 + inside.length := by omega
    rw [hsum, ← List.drop_drop, hdrop, hafter]
    exact List.drop_left ..
  · have htake : (afterTag inTag).take inside.length = inside := by
      rw [hafter]
      exact List.take_left ..
    have hk : ¬((k : Int) < 0) := by omega
    simp only [extract, if_neg hk, Int.toNat_natCast, hfind, hup, hdrop, hstop', htake]

end Block

end TemplateLint
