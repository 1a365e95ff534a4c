import Mathlib.Order.Bounds.Defs
import TemplateLint.Proofs.SourceIndex.Pieces

/-!
How an index represents the text of tokens.

An index has no empty lines and no empty pieces, and a line break only ends a piece. The pieces are
grouped by their lines, and the text is read off the lines in ascending order. If the tokens come in
the order of their lines, then this puts every piece back to its place, so that the text of the
index is that of the tokens. Main statement: `represents_ofTokens`.
-/

namespace TemplateLint

/-- A token ends above the line of another one, or on it. -/
def Token.Precedes (t u : Token) : Prop :=
  t.line + (Text.countBreaks t.value.toList : Int) ≤ u.line

instance : DecidableRel Token.Precedes := fun _ _ => inferInstanceAs (Decidable (_ ≤ _))

instance : Trans Token.Precedes Token.Precedes Token.Precedes where
  trans {t u v} h h' := by
    unfold Token.Precedes at *
    omega

variable {ts : List Token} {n : Int} {p : String} {qs : List (Int × String)}
  {ls : List (Int × List String)}

namespace Text

/-- There are as many line breaks in a text as there are pieces before one, and one more if that
ends its line too. -/
lemma add_break_le_countBreaks {cs p : List Char} {i : ℕ} (h : (pieces cs)[i]? = some p) :
    (i : Int) + (if '\n' ∈ p then 1 else 0) ≤ countBreaks cs := by
  induction cs generalizing i p with
  | nil => cases h
  | cons c cs ih =>
    rw [countBreaks_cons]
    by_cases hc : c = '\n'
    · subst hc
      rw [pieces_cons_break] at h
      rw [if_pos (rfl : '\n' = '\n')]
      cases i with
      | zero => split <;> omega
      | succ i =>
        have hle := ih h
        omega
    · rw [pieces_cons_of_ne hc] at h
      rw [if_neg hc, add_zero]
      cases i with
      | zero =>
        cases h
        cases hp : pieces cs with
        | nil => simp [Ne.symm hc]
        | cons q qs =>
          have hle := ih (i := 0) (p := q) (by rw [hp]; rfl)
          simpa [Ne.symm hc] using hle
      | succ i => exact ih (by rwa [List.getElem?_cons_succ, List.getElem?_tail] at h)

lemma break_not_mem_dropLastBreak {cs : List Char} (h : '\n' ∉ cs.dropLast) :
    '\n' ∉ dropLastBreak cs := by
  induction cs using dropLastBreak.induct with
  | case1 => exact h
  | case2 => exact List.not_mem_nil
  | case3 c cs hne ih =>
    rw [dropLastBreak.eq_3 _ _ hne]
    cases cs with
    | nil =>
      have hc : c ≠ '\n' := fun heq => hne heq rfl
      simpa [dropLastBreak] using hc.symm
    | cons d cs =>
      rw [List.dropLast_cons_cons, List.mem_cons, not_or] at h
      exact List.not_mem_cons_of_ne_of_not_mem h.1 (ih h.2)

end Text

namespace SourceIndex

/-! ### Well-formed indexes -/

/-- An index has pieces on its lines and nothing anywhere else. -/
structure WellFormed (ix : SourceIndex) : Prop where
  entry : ∀ n, ix.find? n ≠ some []
  piece : ∀ n, ∀ p ∈ ix.tokens n, p ≠ "" ∧ '\n' ∉ p.toList.dropLast
  hasLine_iff_line : ∀ n, ix.hasLine (some n) ↔ ix.line? n ≠ none
  hasLine_iff_tokens : ∀ n, ix.hasLine (some n) ↔ ix.tokens n ≠ []
  first : ∀ n, ix.firstLine? = some n ↔ IsLeast {m | ix.hasLine (some m)} n
  last : ∀ n, ix.lastLine? = some n ↔ IsGreatest {m | ix.hasLine (some m)} n
  first_none : ix.firstLine? = none ↔ ∀ n, ¬ix.hasLine (some n)
  last_none : ix.lastLine? = none ↔ ∀ n, ¬ix.hasLine (some n)

lemma tokens_ofTokens (ts : List Token) (n : Int) :
    (ofTokens ts).tokens n = piecesOn n (piecesOf ts) := by
  rw [tokens, find?_ofTokens]
  split
  · next h => exact h.symm
  · rfl

/-- Every piece that is left on a line is a piece of a token, on the line where it is there. -/
lemma exists_piece_of_mem {q : Int × String} {t : Token} (h : q ∈ t.pieces) :
    ∃ (i : ℕ) (cs : List Char), (Text.pieces t.value.toList)[i]? = some cs ∧
      q = (t.line + i, String.ofList cs) := by
  obtain ⟨⟨cs, i⟩, hpiece, rfl⟩ := List.mem_map.1 h
  exact ⟨i, cs, List.mem_zipIdx_iff_getElem?.1 hpiece, rfl⟩

lemma piece_of_mem_piecesOn (h : p ∈ piecesOn n (piecesOf ts)) :
    p ≠ "" ∧ '\n' ∉ p.toList.dropLast := by
  obtain ⟨q, hq, rfl⟩ := List.mem_map.1 h
  obtain ⟨t, -, hqt⟩ := List.mem_flatMap.1 (List.mem_filter.1 hq).1
  obtain ⟨i, cs, hcs, rfl⟩ := exists_piece_of_mem hqt
  have hmem := List.mem_of_getElem? hcs
  constructor
  · simpa using Text.pieces_ne_nil _ cs hmem
  · simpa using Text.break_not_mem_dropLast hmem

lemma wellFormed_ofTokens (ts : List Token) : WellFormed (ofTokens ts) where
  entry n := by
    rw [find?_ofTokens]
    split
    · simp
    · next h => simpa using h
  piece n p hp := piece_of_mem_piecesOn (tokens_ofTokens ts n ▸ hp)
  hasLine_iff_line n := by simp [hasLine, line?, Option.isSome_iff_ne_none]
  hasLine_iff_tokens n := by
    rw [tokens_ofTokens, hasLine, find?_ofTokens]
    split <;> simp_all
  first n := by
    simp only [firstLine?, List.min?_eq_some_iff, hasLine_iff_mem_keys]
    rfl
  last n := by
    simp only [lastLine?, List.max?_eq_some_iff, hasLine_iff_mem_keys]
    rfl
  first_none := by
    simp only [firstLine?, List.min?_eq_none_iff, hasLine_iff_mem_keys]
    exact List.eq_nil_iff_forall_not_mem
  last_none := by
    simp only [lastLine?, List.max?_eq_none_iff, hasLine_iff_mem_keys]
    exact List.eq_nil_iff_forall_not_mem

/-! ### Pieces in order -/

/-- One piece can stand before another: not below it, and above it if it ends its line. -/
def Before (q r : Int × String) : Prop := q.1 ≤ r.1 ∧ ('\n' ∈ q.2.toList → q.1 < r.1)

lemma pairwise_pieces (t : Token) : t.pieces.Pairwise Before := by
  have hlt : (Text.pieces t.value.toList).zipIdx.Pairwise fun q r => q.2 < r.2 := by
    rw [← List.pairwise_map (f := Prod.snd), List.zipIdx_map_snd]
    exact List.pairwise_lt_range' ..
  exact List.pairwise_map.2 (hlt.imp fun h => ⟨by dsimp only; omega, fun _ => by dsimp only; omega⟩)

lemma before_of_precedes {t u : Token} (h : t.Precedes u) {q r : Int × String} (hq : q ∈ t.pieces)
    (hr : r ∈ u.pieces) : Before q r := by
  obtain ⟨i, cs, hcs, rfl⟩ := exists_piece_of_mem hq
  obtain ⟨j, ds, -, rfl⟩ := exists_piece_of_mem hr
  have hbreaks := Text.add_break_le_countBreaks hcs
  rw [Token.Precedes] at h
  refine ⟨?_, fun hbreak => ?_⟩
  · dsimp only
    split at hbreaks <;> omega
  · rw [String.toList_ofList] at hbreak
    rw [if_pos hbreak] at hbreaks
    dsimp only
    omega

/-- Tokens in order leave their pieces in order. -/
lemma pairwise_piecesOf (h : ts.IsChain Token.Precedes) : (piecesOf ts).Pairwise Before :=
  List.pairwise_flatMap.2 ⟨fun t _ => pairwise_pieces t,
    h.pairwise.imp fun hprecedes _ hq _ hr => before_of_precedes hprecedes hq hr⟩

/-! ### Grouping pieces that are in order -/

/-- A piece for the last line, or for one below it, is added at the end. -/
lemma addPiece_of_le (hls : (ls.map (·.1)).Pairwise (· < ·)) (hle : ∀ l ∈ ls, l.1 ≤ n) :
    ((addPiece n p ls).map (·.1)).Pairwise (· < ·) ∧
      (addPiece n p ls).flatMap (·.2) = ls.flatMap (·.2) ++ [p] := by
  induction ls with
  | nil => simp [addPiece]
  | cons l ls ih =>
    obtain ⟨m, ps⟩ := l
    rw [List.map_cons, List.pairwise_cons] at hls
    rw [addPiece]
    by_cases hm : m = n
    · -- no line is below the one of the piece
      have hlast : ls = [] := by
        refine List.eq_nil_iff_forall_not_mem.2 fun l hl => ?_
        have hbelow := hls.1 l.1 (List.mem_map_of_mem hl)
        have habove := hle l (.tail _ hl)
        omega
      simp [hm, hlast]
    · obtain ⟨hpairwise, hall⟩ := ih hls.2 fun l hl => hle l (.tail _ hl)
      rw [if_neg hm, List.map_cons, List.pairwise_cons, List.flatMap_cons, hall, List.flatMap_cons,
        List.append_assoc]
      refine ⟨⟨fun k hk => ?_, hpairwise⟩, rfl⟩
      rw [keys_addPiece] at hk
      have hmn : m < n := lt_of_le_of_ne (hle (m, ps) (.head _)) hm
      split at hk
      · exact hls.1 k hk
      · rcases List.mem_append.1 hk with hk | hk
        · exact hls.1 k hk
        · rwa [List.mem_singleton.1 hk]

/-- Grouping pieces that are in order, and then reading one group after the other, changes nothing,
and the groups come by ascending lines. -/
lemma addAll_of_pairwise (h : qs.Pairwise Before) :
    ((addAll [] qs).map (·.1)).Pairwise (· < ·) ∧
      (∀ l ∈ addAll [] qs, l.1 ∈ qs.map (·.1)) ∧
      (addAll [] qs).flatMap (·.2) = qs.map (·.2) := by
  induction qs using List.reverseRecOn with
  | nil => exact ⟨.nil, by simp [addAll], rfl⟩
  | append_singleton qs q ih =>
    obtain ⟨hqs, -, hbefore⟩ := List.pairwise_append.1 h
    obtain ⟨hpairwise, hmem, hall⟩ := ih hqs
    have hle : ∀ l ∈ addAll [] qs, l.1 ≤ q.1 := by
      intro l hl
      obtain ⟨r, hr, hrl⟩ := List.mem_map.1 (hmem l hl)
      exact hrl ▸ (hbefore r hr q (.head _)).1
    obtain ⟨hpairwise', hall'⟩ := addPiece_of_le (p := q.2) hpairwise hle
    rw [addAll_append]
    refine ⟨hpairwise', fun l hl => ?_, ?_⟩
    · rw [List.map_append, List.mem_append]
      rcases mem_addPiece hl with hl | ⟨hl, -⟩
      · exact .inl (hmem l hl)
      · exact .inr (hl ▸ .head _)
    · rw [List.map_append, ← hall]
      exact hall'

/-! ### The text of an index -/

/-- The index has the text of the tokens, and its lines are single lines. -/
structure Represents (ix : SourceIndex) (ts : List Token) : Prop where
  /-- Read line by line, the pieces are those of the tokens in their order. -/
  pieces : ix.sorted.flatMap (·.2) = (piecesOf ts).map (·.2)
  text : ix.text = String.join (ts.map (·.value))
  line : ∀ n s, ix.line? n = some s → '\n' ∉ s.toList

/-- A line break can only be at the end of a line. -/
lemma break_not_mem_dropLast_flatMap {ps : List String} (hne : ∀ p ∈ ps, p ≠ "")
    (hend : ∀ p ∈ ps, '\n' ∉ p.toList.dropLast) (h : ps.Pairwise fun p _ => '\n' ∉ p.toList) :
    '\n' ∉ (ps.flatMap String.toList).dropLast := by
  induction ps with
  | nil => exact List.not_mem_nil
  | cons p ps ih =>
    cases ps with
    | nil => simpa using hend p (.head _)
    | cons q ps =>
      have hp := (List.pairwise_cons.1 h).1 q (.head _)
      have hrest := ih (fun r hr => hne r (.tail _ hr)) (fun r hr => hend r (.tail _ hr))
        (List.pairwise_cons.1 h).2
      have hnil : (q :: ps).flatMap String.toList ≠ [] := by simp [hne q]
      rw [List.flatMap_cons, List.dropLast_append_of_ne_nil hnil, List.mem_append, not_or]
      exact ⟨hp, hrest⟩

lemma flatMap_piecesOf (ts : List Token) :
    ((piecesOf ts).map (·.2)).flatMap String.toList = ts.flatMap (·.value.toList) := by
  have htoken : ∀ t : Token, (t.pieces.map (·.2)).flatMap String.toList = t.value.toList := by
    intro t
    have hpieces : t.pieces.map (·.2) = (Text.pieces t.value.toList).map String.ofList := by
      rw [Token.pieces, List.map_map, ← List.zipIdx_map_fst 0 (Text.pieces t.value.toList),
        List.map_map, List.zipIdx_map_fst]
      rfl
    rw [hpieces, List.flatMap_map]
    simp only [String.toList_ofList]
    rw [List.flatMap_id', Text.flatten_pieces]
  rw [piecesOf, List.map_flatMap, List.flatMap_assoc]
  simp only [htoken]

lemma represents_of_isChain (h : ts.IsChain Token.Precedes) : Represents (ofTokens ts) ts := by
  have hpairwise := pairwise_piecesOf h
  obtain ⟨hlt, -, hall⟩ := addAll_of_pairwise hpairwise
  have hsorted : (ofTokens ts).sorted = addAll [] (piecesOf ts) := by
    rw [sorted, lines_ofTokens]
    exact List.mergeSort_of_pairwise ((List.pairwise_map.1 hlt).imp fun h => by simpa using h.le)
  have hpieces : (ofTokens ts).sorted.flatMap (·.2) = (piecesOf ts).map (·.2) := hsorted ▸ hall
  refine ⟨hpieces, ?_, fun n s hs => ?_⟩
  · rw [← String.toList_inj, text, String.toList_join, String.toList_join, List.flatMap_map,
      List.flatMap_map]
    simp only [String.toList_join]
    rw [← flatMap_piecesOf, ← hpieces, List.flatMap_assoc]
  · -- only the last piece of a line can have a line break
    have hline : (piecesOn n (piecesOf ts)).Pairwise fun p _ => '\n' ∉ p.toList := by
      refine List.pairwise_map.2 ((hpairwise.filter _).imp_of_mem fun hq hr hbefore hbreak => ?_)
      have hq := (List.mem_filter.1 hq).2
      have hr := (List.mem_filter.1 hr).2
      have hlt := hbefore.2 hbreak
      simp only [beq_iff_eq] at hq hr
      omega
    rw [line?, find?_ofTokens] at hs
    split at hs
    · cases hs
    · cases hs
      simp only [dropBreak, String.toList_ofList, String.toList_join]
      exact Text.break_not_mem_dropLastBreak (break_not_mem_dropLast_flatMap
        (fun p hp => (piece_of_mem_piecesOn hp).1) (fun p hp => (piece_of_mem_piecesOn hp).2) hline)

/-- **An index of tokens is well formed**, and if every token ends above the line of the next one or
on it, then the index has the text of the tokens in their order. -/
theorem represents_ofTokens (ts : List Token) :
    WellFormed (ofTokens ts) ∧
      (ts.IsChain Token.Precedes → Represents (ofTokens ts) ts) :=
  ⟨wellFormed_ofTokens ts, represents_of_isChain⟩

/-- Tokens that go over two lines, share a line, are empty and leave lines out. -/
def gappyTokens : List Token := [⟨1, "data", "a\nb"⟩, ⟨2, "variable_begin", "\x7b\x7b"⟩,
  ⟨2, "data", ""⟩, ⟨2, "data", "\n"⟩, ⟨5, "data", "c"⟩]

theorem represents_ofTokens_gappy : gappyTokens.IsChain Token.Precedes ∧
    Represents (ofTokens gappyTokens) gappyTokens ∧
    (ofTokens gappyTokens).text = "a\nb\x7b\x7b\nc" := by
  have hchain : gappyTokens.IsChain Token.Precedes := by decide
  have hrepresents := (represents_ofTokens gappyTokens).2 hchain
  exact ⟨hchain, hrepresents, hrepresents.text.trans (by decide)⟩

end SourceIndex

end TemplateLint
