import TemplateLint.Proofs.Block.Count
import TemplateLint.Proofs.SourceIndex.Lines

/-!
Which pieces an index holds on a line.

The tokens leave pieces on lines, one after the other, and an index holds on each line the pieces
that were left there, in this order. So the index of two lists of tokens is put together from the
indexes of both, line by line, and the index of a block is a part of the index of its template.
Main statement: `joins_and_within_ofTokens`.
-/

namespace TemplateLint

variable {ts xs ys : List Token}

/-- The pieces of a token with the numbers of their lines. -/
def Token.pieces (t : Token) : List (Int × String) :=
  (Text.pieces t.value.toList).zipIdx.map fun q => (t.line + q.2, String.ofList q.1)

namespace SourceIndex

/-! ### Pieces on lines -/

/-- The pieces that tokens leave on lines. -/
def piecesOf (ts : List Token) : List (Int × String) := ts.flatMap Token.pieces

/-- Those of them that are on one line. -/
def piecesOn (n : Int) (qs : List (Int × String)) : List String :=
  (qs.filter (·.1 == n)).map (·.2)

lemma piecesOf_append (xs ys : List Token) : piecesOf (xs ++ ys) = piecesOf xs ++ piecesOf ys :=
  List.flatMap_append ..

lemma piecesOn_append (n : Int) (qs rs : List (Int × String)) :
    piecesOn n (qs ++ rs) = piecesOn n qs ++ piecesOn n rs := by
  rw [piecesOn, List.filter_append, List.map_append, piecesOn, piecesOn]

/-! ### Adding pieces to lines -/

/-- The lines with pieces added to them, one after the other. -/
def addAll (ls : List (Int × List String)) (qs : List (Int × String)) : List (Int × List String) :=
  qs.foldl (fun ls q => addPiece q.1 q.2 ls) ls

/-- What lines hold under a number. -/
def piecesAt? (ls : List (Int × List String)) (n : Int) : Option (List String) :=
  (ls.find? (·.1 == n)).map (·.2)

lemma addAll_append (ls : List (Int × List String)) (qs rs : List (Int × String)) :
    addAll ls (qs ++ rs) = addAll (addAll ls qs) rs :=
  List.foldl_append ..

lemma addPieces_eq (line : Int) (k : Nat) (ps : List (List Char)) (ls : List (Int × List String)) :
    addPieces (line + k) (ps.map String.ofList) ls =
      addAll ls ((ps.zipIdx k).map fun q => (line + q.2, String.ofList q.1)) := by
  induction ps generalizing k ls with
  | nil => rfl
  | cons p ps ih =>
    have hnext : line + k + 1 = line + (k + 1 : Nat) := by omega
    rw [List.map_cons, addPieces, hnext, ih]
    rfl

/-- **The lines of an index** are the pieces of its tokens, added one after the other. -/
theorem lines_ofTokens (ts : List Token) : (ofTokens ts).lines = addAll [] (piecesOf ts) := by
  have hfold : ∀ ix : SourceIndex,
      (ts.foldl addToken ix).lines = addAll ix.lines (piecesOf ts) := by
    induction ts with
    | nil => exact fun _ => rfl
    | cons t ts ih =>
      intro ix
      have hfirst : (ix.addToken t).lines = addAll ix.lines t.pieces := by
        have hpieces := addPieces_eq t.line 0 (Text.pieces t.value.toList) ix.lines
        rwa [Nat.cast_zero, add_zero] at hpieces
      rw [List.foldl_cons, ih, hfirst, ← addAll_append]
      rfl
  exact hfold empty

/-- The comments of an index are those of its tokens. -/
theorem comments_ofTokens (ts : List Token) :
    (ofTokens ts).comments = ts.filter Token.isComment := by
  have hfold : ∀ ix : SourceIndex,
      (ts.foldl addToken ix).comments = ix.comments ++ ts.filter Token.isComment := by
    induction ts with
    | nil => exact fun ix => (List.append_nil _).symm
    | cons t ts ih =>
      intro ix
      rw [List.foldl_cons, ih, addToken]
      cases ht : t.isComment <;> simp [ht]
  exact hfold empty

lemma piecesAt?_addPiece (line n : Int) (p : String) (ls : List (Int × List String)) :
    piecesAt? (addPiece line p ls) n =
      if line = n then some ((piecesAt? ls n).getD [] ++ [p]) else piecesAt? ls n := by
  induction ls with
  | nil => by_cases h : line = n <;> simp [addPiece, piecesAt?, h]
  | cons l ls ih =>
    obtain ⟨m, ps⟩ := l
    have hcons : ∀ ps' ls',
        piecesAt? ((m, ps') :: ls') n = if m = n then some ps' else piecesAt? ls' n := by
      intro ps' ls'
      by_cases h : m = n <;> simp [piecesAt?, h]
    rw [addPiece]
    by_cases hm : m = line
    · subst hm
      rw [if_pos rfl, hcons, hcons]
      by_cases hn : m = n <;> simp [hn]
    · rw [if_neg hm, hcons, hcons, ih]
      by_cases hn : m = n
      · subst hn
        simp [Ne.symm hm]
      · simp [hn]

/-- Of all pieces that are added those count for a line that are on it. -/
lemma piecesAt?_addAll (n : Int) (qs : List (Int × String)) (ls : List (Int × List String)) :
    piecesAt? (addAll ls qs) n =
      if piecesOn n qs = [] then piecesAt? ls n
      else some ((piecesAt? ls n).getD [] ++ piecesOn n qs) := by
  induction qs generalizing ls with
  | nil => rfl
  | cons q qs ih =>
    obtain ⟨m, p⟩ := q
    have hrest : piecesAt? (addAll ls ((m, p) :: qs)) n =
        piecesAt? (addAll (addPiece m p ls) qs) n := rfl
    rw [hrest, ih, piecesAt?_addPiece]
    by_cases hm : m = n
    · have hcons : piecesOn n ((m, p) :: qs) = p :: piecesOn n qs := by simp [piecesOn, hm]
      rw [hcons, if_pos hm, if_neg (List.cons_ne_nil _ _)]
      by_cases hnil : piecesOn n qs = []
      · simp [hnil]
      · simp [hnil, List.append_assoc]
    · have hcons : piecesOn n ((m, p) :: qs) = piecesOn n qs := by simp [piecesOn, hm]
      rw [hcons, if_neg hm]

/-- **What an index holds of a line**: the pieces that its tokens leave there, and nothing if there
are none. -/
theorem find?_ofTokens (ts : List Token) (n : Int) :
    (ofTokens ts).find? n =
      if piecesOn n (piecesOf ts) = [] then none else some (piecesOn n (piecesOf ts)) := by
  have hfind : (ofTokens ts).find? n = piecesAt? (addAll [] (piecesOf ts)) n := by
    rw [← lines_ofTokens]
    rfl
  rw [hfind, piecesAt?_addAll]
  rfl

/-! ### Indexes of parts -/

/-- An index is put together from two others: a line that only one of them has is as it is there,
and one that both have holds the pieces of the first and then those of the second. -/
structure Joins (ix first second : SourceIndex) : Prop where
  line : ∀ n, ix.find? n = Option.merge (· ++ ·) (first.find? n) (second.find? n)
  comments : ix.comments = first.comments ++ second.comments

/-- An index is within another one: its lines are there too, with its pieces in a row among the
pieces there. -/
structure Within (ix ix' : SourceIndex) : Prop where
  line : ∀ n ps, ix.find? n = some ps → ∃ ps', ix'.find? n = some ps' ∧ ps <:+: ps'
  comments : ix.comments <:+: ix'.comments

/-- **Indexing respects putting together.** -/
theorem joins_append (xs ys : List Token) :
    Joins (ofTokens (xs ++ ys)) (ofTokens xs) (ofTokens ys) where
  line n := by
    simp only [find?_ofTokens, piecesOf_append, piecesOn_append, List.append_eq_nil_iff]
    by_cases hx : piecesOn n (piecesOf xs) = [] <;> by_cases hy : piecesOn n (piecesOf ys) = [] <;>
      simp [hx, hy]
  comments := by simp only [comments_ofTokens, List.filter_append]

namespace Joins

variable {ix first second : SourceIndex}

lemma within_left (h : Joins ix first second) : Within first ix where
  line n ps hps := by
    rw [h.line, hps]
    cases second.find? n with
    | none => exact ⟨ps, rfl, List.infix_rfl⟩
    | some ps' => exact ⟨ps ++ ps', rfl, (List.prefix_append ps ps').isInfix⟩
  comments := by
    rw [h.comments]
    exact (List.prefix_append _ _).isInfix

lemma within_right (h : Joins ix first second) : Within second ix where
  line n ps hps := by
    rw [h.line, hps]
    cases first.find? n with
    | none => exact ⟨ps, rfl, List.infix_rfl⟩
    | some ps' => exact ⟨ps' ++ ps, rfl, (List.suffix_append ps' ps).isInfix⟩
  comments := by
    rw [h.comments]
    exact (List.suffix_append _ _).isInfix

end Joins

lemma Within.trans {ix ix' ix'' : SourceIndex} (h : Within ix ix') (h' : Within ix' ix'') :
    Within ix ix'' where
  line n ps hps := by
    obtain ⟨ps', hps', hin⟩ := h.line n ps hps
    obtain ⟨ps'', hps'', hin'⟩ := h'.line n ps' hps'
    exact ⟨ps'', hps'', hin.trans hin'⟩
  comments := h.comments.trans h'.comments

/-- Tokens in a row have an index within that of all tokens. -/
lemma within_of_isInfix (h : xs <:+: ys) : Within (ofTokens xs) (ofTokens ys) := by
  obtain ⟨before, after, rfl⟩ := h
  exact (joins_append before xs).within_right.trans (joins_append (before ++ xs) after).within_left

end SourceIndex

/-! ### Blocks -/

namespace Block

variable {beginTag endTag name : String}

lemma suffix_of_findOpening {k : Nat} {opening : Token} {rest : List Token}
    (h : findOpening name k ts = some (opening, rest)) : rest <:+ ts := by
  fun_induction findOpening name k ts with
  | case1 => cases h
  | case2 t ts hnamed =>
    cases h
    exact List.suffix_cons ..
  | case3 t ts hnamed k ih => exact (ih h).trans (List.suffix_cons ..)
  | case4 k t ts hnamed ih => exact (ih h).trans (List.suffix_cons ..)

lemma afterTag_suffix (ts : List Token) : afterTag ts <:+ ts := by
  fun_induction afterTag ts with
  | case1 => exact List.suffix_rfl
  | case2 t ts hcloses => exact List.suffix_cons ..
  | case3 t ts hcloses ih => exact ih.trans (List.suffix_cons ..)

/-- **A block is a row of tokens.** -/
theorem extract_isInfix (ts : List Token) (ordinal : Int) (beginTag endTag : String) :
    (extract ts ordinal beginTag endTag).tokens <:+: ts := by
  unfold extract
  split
  · exact List.nil_infix
  · next opening rest hfind =>
    have hopening : findOpening beginTag ordinal.toNat ts = some (opening, rest) := by
      split at hfind
      · cases hfind
      · exact hfind
    have hcontent : afterTag rest <:+ ts :=
      (afterTag_suffix rest).trans (suffix_of_findOpening hopening)
    dsimp only
    split
    · next inside hinside => exact (prefix_of_upToClosing hinside).isInfix.trans hcontent.isInfix
    · exact hcontent.isInfix

end Block

namespace SourceIndex

/-- **Indexing is a homomorphism**: tokens one behind the other have the index that is put together
from the indexes of both. So the index of a block, whatever its number and its tags, is within the
index of all tokens. -/
theorem joins_and_within_ofTokens :
    (∀ xs ys : List Token, Joins (ofTokens (xs ++ ys)) (ofTokens xs) (ofTokens ys)) ∧
    ∀ (ts : List Token) (ordinal : Int) (beginTag endTag : String),
      Within (ofTokens (Block.extract ts ordinal beginTag endTag).tokens) (ofTokens ts) :=
  ⟨joins_append, fun ts ordinal beginTag endTag =>
    within_of_isInfix (Block.extract_isInfix ts ordinal beginTag endTag)⟩

end SourceIndex

end TemplateLint
