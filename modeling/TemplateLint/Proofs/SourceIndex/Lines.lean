import Mathlib.Data.List.Infix
import Mathlib.Data.List.Sort
import Mathlib.Data.List.Nodup
import TemplateLint.SourceIndex

/-!
The lines of a text, and what an index holds of a line.

`onLine` takes the characters of one line out of a text that may start on any line, so that the line
of a text in parts is made of the lines of the parts. An index of tokens holds on each line what the
tokens have on that line, so that neighbouring tokens make a part of it. Main statements:
`chars_ofTokens`, `isPart_ofTokens`.
-/

namespace TemplateLint

namespace Text

/-! ### The characters of a line -/

/-- The characters of the line `n` of a text that starts on the line `line`. -/
def onLine (n : Int) : Int → List Char → List Char
  | _, [] => []
  | line, c :: cs =>
    (if line = n then [c] else []) ++ onLine n (if c = '\n' then line + 1 else line) cs

@[simp] lemma onLine_nil (n line : Int) : onLine n line [] = [] := rfl

@[simp] lemma countBreaks_nil : countBreaks [] = 0 := rfl

lemma countBreaks_cons (c : Char) (cs : List Char) :
    (countBreaks (c :: cs) : Int) = countBreaks cs + if c = '\n' then 1 else 0 := by
  simp only [countBreaks, List.count_cons, beq_iff_eq]
  split <;> simp

/-- A line of a text in two parts; the first part moves the second one down. -/
lemma onLine_append (n line : Int) (as bs : List Char) :
    onLine n line (as ++ bs) = onLine n line as ++ onLine n (line + countBreaks as) bs := by
  induction as generalizing line with
  | nil => simp
  | cons c as ih =>
    rw [List.cons_append, onLine, onLine, ih, List.append_assoc, countBreaks_cons]
    congr 3
    split <;> omega

lemma onLine_eq_nil_of_lt {n line : Int} (h : n < line) (cs : List Char) :
    onLine n line cs = [] := by
  induction cs generalizing line with
  | nil => rfl
  | cons c cs ih =>
    have hne : line ≠ n := by omega
    rw [onLine, if_neg hne, List.nil_append]
    split
    · exact ih (by omega)
    · exact ih h

lemma pieces_cons_break (cs : List Char) : pieces ('\n' :: cs) = ['\n'] :: pieces cs := rfl

lemma pieces_cons_of_ne {c : Char} (hc : c ≠ '\n') (cs : List Char) :
    pieces (c :: cs) = (c :: (pieces cs).headD []) :: (pieces cs).tail := by
  rw [pieces, if_neg hc]
  cases pieces cs <;> rfl

/-- A piece has a line break at its end only. -/
lemma break_not_mem_dropLast {cs p : List Char} (h : p ∈ pieces cs) : '\n' ∉ p.dropLast := by
  induction cs generalizing p with
  | nil => cases h
  | cons c cs ih =>
    by_cases hc : c = '\n'
    · subst hc
      rcases List.mem_cons.1 h with rfl | h
      · simp
      · exact ih h
    · rw [pieces_cons_of_ne hc] at h
      rcases List.mem_cons.1 h with rfl | h
      · cases hp : pieces cs with
        | nil => simp
        | cons q qs =>
          have hq := ih (hp ▸ List.mem_cons_self : q ∈ pieces cs)
          cases q with
          | nil => simp
          | cons b q => simpa [Ne.symm hc] using hq
      · exact ih (List.mem_of_mem_tail h)

/-- The pieces of a text are its lines. -/
lemma getElem?_pieces (line : Int) (cs : List Char) (i : Nat) :
    (pieces cs)[i]?.getD [] = onLine (line + i) line cs := by
  induction cs generalizing line i with
  | nil => rfl
  | cons c cs ih =>
    by_cases hc : c = '\n'
    · subst hc
      rw [pieces_cons_break, onLine, if_pos rfl]
      cases i with
      | zero =>
        have hbehind : onLine line (line + 1) cs = [] := onLine_eq_nil_of_lt (by omega) cs
        simp [hbehind]
      | succ i =>
        have hne : line ≠ line + (i + 1 : Nat) := by omega
        have hline : line + (i + 1 : Nat) = line + 1 + i := by omega
        rw [if_neg hne, hline, ← ih]
        rfl
    · rw [pieces_cons_of_ne hc, onLine, if_neg hc, ← ih]
      cases i with
      | zero => cases pieces cs <;> simp
      | succ i =>
        have hne : line ≠ line + (i + 1 : Nat) := by omega
        rw [if_neg hne]
        cases pieces cs <;> simp

/-- Outside of its lines a text has no characters. -/
lemma onLine_ne_nil_iff (line n : Int) (cs : List Char) :
    onLine n line cs ≠ [] ↔ line ≤ n ∧ n < line + (pieces cs).length := by
  rcases lt_or_ge n line with hlt | hge
  · simp [onLine_eq_nil_of_lt hlt]
    omega
  · obtain ⟨i, rfl⟩ := Int.le.dest hge
    rw [← getElem?_pieces]
    rcases lt_or_ge i (pieces cs).length with hi | hi
    · have hne := pieces_ne_nil cs _ (List.getElem_mem hi)
      simp only [List.getElem?_eq_getElem hi, Option.getD_some, ne_eq, hne, not_false_eq_true,
        true_iff]
      omega
    · simp only [List.getElem?_eq_none hi, Option.getD_none, ne_eq, not_true_eq_false, false_iff]
      omega

/-! ### Last line breaks -/

lemma dropLastBreak_append {bs : List Char} (h : bs ≠ []) (as : List Char) :
    dropLastBreak (as ++ bs) = as ++ dropLastBreak bs := by
  induction as with
  | nil => rfl
  | cons c as ih =>
    rw [List.cons_append, dropLastBreak.eq_3 _ _ fun _ hnil => h (List.append_eq_nil_iff.1 hnil).2,
      ih, List.cons_append]

lemma isPrefix_dropLastBreak (cs : List Char) : dropLastBreak cs <+: cs := by
  induction cs using dropLastBreak.induct with
  | case1 => exact List.prefix_rfl
  | case2 => exact List.nil_prefix
  | case3 c cs hne ih =>
    rw [dropLastBreak.eq_3 _ _ hne]
    exact List.cons_prefix_cons.2 ⟨rfl, ih⟩

/-- Only at the end of the whole text a part of it can lose its last line break. -/
lemma isInfix_dropLastBreak {as bs : List Char} (h : as <:+: bs) :
    dropLastBreak as <:+: dropLastBreak bs := by
  obtain ⟨before, after, rfl⟩ := h
  rcases List.eq_nil_or_concat as with rfl | ⟨cs, c, rfl⟩
  · exact List.nil_infix
  · by_cases hafter : after = []
    · subst hafter
      rw [List.append_nil, dropLastBreak_append (by simp)]
      exact (List.suffix_append _ _).isInfix
    · rw [dropLastBreak_append hafter, List.append_assoc]
      exact ((isPrefix_dropLastBreak _).trans (List.prefix_append _ _)).isInfix.trans
        (List.suffix_append _ _).isInfix

end Text

namespace SourceIndex

open Text (onLine)

/-! ### What an index holds of a line -/

/-- The numbers of the lines that are there. -/
def keys (ix : SourceIndex) : List Int := ix.lines.map (·.1)

lemma hasLine_iff_mem_keys {ix : SourceIndex} {n : Int} :
    ix.hasLine (some n) ↔ n ∈ ix.keys := by
  simp [hasLine, find?, keys]

/-- The characters that lines hold under a number. -/
def chars (ls : List (Int × List String)) (n : Int) : List Char :=
  (((ls.find? (·.1 == n)).map (·.2)).getD []).flatMap String.toList

lemma chars_addPiece (line n : Int) (p : String) (ls : List (Int × List String)) :
    chars (addPiece line p ls) n = chars ls n ++ if line = n then p.toList else [] := by
  induction ls with
  | nil =>
    by_cases h : line = n
    · simp [addPiece, chars, h]
    · simp [addPiece, chars, h]
  | cons l ls ih =>
    obtain ⟨m, ps⟩ := l
    simp only [addPiece]
    by_cases hm : m = line
    · subst hm
      by_cases hn : m = n
      · simp [chars, hn]
      · simp [chars, hn]
    · rw [if_neg hm]
      by_cases hn : m = n
      · subst hn
        simp [chars, Ne.symm hm]
      · have hskip : ∀ ls', chars ((m, ps) :: ls') n = chars ls' n := by
          intro ls'
          simp [chars, hn]
        rw [hskip, hskip, ih]

/-- The piece that consecutive pieces from a line on leave on a line. -/
def pieceOn (n line : Int) (ps : List (List Char)) : List Char :=
  if line ≤ n then ps[(n - line).toNat]?.getD [] else []

lemma chars_addPieces (line n : Int) (ps : List (List Char)) (ls : List (Int × List String)) :
    chars (addPieces line (ps.map String.ofList) ls) n = chars ls n ++ pieceOn n line ps := by
  induction ps generalizing line ls with
  | nil => simp [addPieces, pieceOn]
  | cons p ps ih =>
    rw [List.map_cons, addPieces, ih, chars_addPiece, List.append_assoc]
    congr 1
    unfold pieceOn
    rcases lt_trichotomy line n with h | h | h
    · have hi : (n - line).toNat = (n - (line + 1)).toNat + 1 := by omega
      rw [if_neg h.ne, if_pos (by omega), if_pos h.le, hi]
      rfl
    · subst h
      rw [if_neg (by omega : ¬line + 1 ≤ line)]
      simp
    · rw [if_neg h.ne', if_neg (by omega), if_neg (by omega)]
      rfl

lemma pieceOn_pieces (n line : Int) (cs : List Char) :
    pieceOn n line (Text.pieces cs) = onLine n line cs := by
  unfold pieceOn
  split
  · next h =>
    have hn : n = line + (n - line).toNat := by omega
    conv_rhs => rw [hn]
    exact Text.getElem?_pieces line cs _
  · next h => rw [Text.onLine_eq_nil_of_lt (by omega)]

lemma chars_foldl_addToken (n : Int) (ts : List Token) (ix : SourceIndex) :
    chars (ts.foldl addToken ix).lines n =
      chars ix.lines n ++ ts.flatMap fun t => onLine n t.line t.value.toList := by
  induction ts generalizing ix with
  | nil => simp
  | cons t ts ih =>
    rw [List.foldl_cons, ih, List.flatMap_cons, ← List.append_assoc]
    congr 1
    rw [← pieceOn_pieces]
    exact chars_addPieces ..

/-- **An index of tokens holds on each line what the tokens have there.** -/
theorem chars_ofTokens (n : Int) (ts : List Token) :
    chars (ofTokens ts).lines n = ts.flatMap fun t => onLine n t.line t.value.toList := by
  rw [ofTokens, chars_foldl_addToken]
  rfl

/-! ### Well-formed lines -/

/-- Every number has one entry, and no entry is empty. -/
structure Regular (ls : List (Int × List String)) : Prop where
  nodup : (ls.map (·.1)).Nodup
  nonempty : ∀ l ∈ ls, l.2.flatMap String.toList ≠ []

lemma mem_addPiece {line : Int} {p : String} {ls : List (Int × List String)}
    {l : Int × List String} (h : l ∈ addPiece line p ls) :
    l ∈ ls ∨ l.1 = line ∧ ∃ ps, l.2 = ps ++ [p] := by
  induction ls with
  | nil =>
    simp only [addPiece, List.mem_singleton] at h
    subst h
    exact Or.inr ⟨rfl, [], rfl⟩
  | cons l' ls ih =>
    simp only [addPiece] at h
    split at h
    · next he =>
      rcases List.mem_cons.1 h with rfl | h
      · exact Or.inr ⟨he, l'.2, rfl⟩
      · exact Or.inl (List.mem_cons_of_mem _ h)
    · rcases List.mem_cons.1 h with rfl | h
      · exact Or.inl List.mem_cons_self
      · exact (ih h).imp_left (List.mem_cons_of_mem _)

lemma keys_addPiece (line : Int) (p : String) (ls : List (Int × List String)) :
    (addPiece line p ls).map (·.1) =
      if line ∈ ls.map (·.1) then ls.map (·.1) else ls.map (·.1) ++ [line] := by
  induction ls with
  | nil => rfl
  | cons l ls ih =>
    simp only [addPiece]
    by_cases h : l.1 = line
    · simp [h]
    · rw [if_neg h, List.map_cons, ih]
      simp only [List.map_cons, List.mem_cons, Ne.symm h, false_or]
      split <;> rfl

lemma Regular.addPiece {line : Int} {p : String} {ls : List (Int × List String)} (h : Regular ls)
    (hp : p.toList ≠ []) : Regular (addPiece line p ls) where
  nodup := by
    rw [keys_addPiece]
    split
    · exact h.nodup
    · next hn =>
      refine List.nodup_append.2 ⟨h.nodup, List.nodup_singleton _, fun a ha b hb he => hn ?_⟩
      rwa [← List.mem_singleton.1 hb, ← he]
  nonempty l hl := by
    rcases mem_addPiece hl with hl | ⟨-, ps, hps⟩
    · exact h.nonempty l hl
    · simp [hps, hp]

lemma Regular.addPieces {line : Int} {ps : List (List Char)} {ls : List (Int × List String)}
    (h : Regular ls) (hp : ∀ p ∈ ps, p ≠ []) :
    Regular (addPieces line (ps.map String.ofList) ls) := by
  induction ps generalizing line ls with
  | nil => exact h
  | cons p ps ih =>
    have hfirst : (String.ofList p).toList ≠ [] := by
      rw [String.toList_ofList]
      exact hp p List.mem_cons_self
    exact ih (h.addPiece hfirst) fun q hq => hp q (List.mem_cons_of_mem _ hq)

lemma regular_ofTokens (ts : List Token) : Regular (ofTokens ts).lines := by
  have hfold : ∀ (ix : SourceIndex), Regular ix.lines → Regular (ts.foldl addToken ix).lines := by
    induction ts with
    | nil => exact fun _ h => h
    | cons t ts ih =>
      exact fun ix h => ih _ (h.addPieces (Text.pieces_ne_nil t.value.toList))
  exact hfold empty ⟨List.nodup_nil, by simp [empty]⟩

variable {ls : List (Int × List String)}

/-- In regular lines every entry is the one that is found under its number. -/
lemma Regular.find?_eq (h : Regular ls) {l : Int × List String} (hl : l ∈ ls) :
    ls.find? (·.1 == l.1) = some l := by
  induction ls with
  | nil => cases hl
  | cons l' ls ih =>
    have hn := List.nodup_cons.1 h.nodup
    rcases List.mem_cons.1 hl with rfl | hl
    · simp
    · have hne : l'.1 ≠ l.1 := fun he => hn.1 (List.mem_map.2 ⟨l, hl, he.symm⟩)
      have hrest : Regular ls := ⟨hn.2, fun m hm => h.nonempty m (List.mem_cons_of_mem _ hm)⟩
      rw [List.find?_cons_of_neg (by simpa using hne)]
      exact ih hrest hl

lemma Regular.chars_eq (h : Regular ls) {l : Int × List String} (hl : l ∈ ls) :
    chars ls l.1 = l.2.flatMap String.toList := by
  rw [chars, h.find?_eq hl]
  rfl

/-- A line is there if it has characters. -/
lemma Regular.isSome_find?_iff (h : Regular ls) (n : Int) :
    (ls.find? (·.1 == n)).isSome ↔ chars ls n ≠ [] := by
  cases hf : ls.find? (·.1 == n) with
  | none => simp [chars, hf]
  | some l =>
    have hl := h.nonempty l (List.mem_of_find?_eq_some hf)
    simpa [chars, hf] using hl

lemma hasLine_iff (ts : List Token) (n : Int) :
    (ofTokens ts).hasLine (some n) ↔ chars (ofTokens ts).lines n ≠ [] := by
  rw [← (regular_ofTokens ts).isSome_find?_iff n]
  simp [hasLine, find?]

/-- The text of a line that is there. -/
lemma line?_eq (ts : List Token) (n : Int) :
    (ofTokens ts).line? n =
      if chars (ofTokens ts).lines n = [] then none
      else some (String.ofList (Text.dropLastBreak (chars (ofTokens ts).lines n))) := by
  have h := (regular_ofTokens ts).isSome_find?_iff n
  cases hf : (ofTokens ts).lines.find? (·.1 == n) with
  | none =>
    rw [hf] at h
    have hnil : chars (ofTokens ts).lines n = [] := by simpa using h
    simp [line?, find?, hf, hnil]
  | some l =>
    rw [hf] at h
    have hne : chars (ofTokens ts).lines n ≠ [] := by simpa using h
    rw [if_neg hne]
    simp [line?, find?, hf, chars, dropBreak, String.toList_join]

/-! ### Parts of an index -/

/-- Every line of one index is a line of the other one, and its text stands in the text there. -/
def IsPart (ix ix' : SourceIndex) : Prop :=
  ∀ n, ix.hasLine (some n) → ix'.hasLine (some n) ∧
    ∃ s s', ix.line? n = some s ∧ ix'.line? n = some s' ∧ s.toList <:+: s'.toList

/-- **Neighbouring tokens make a part of the index of all tokens.** -/
theorem isPart_ofTokens {ts ts' : List Token} (h : ts <:+: ts') :
    (ofTokens ts).IsPart (ofTokens ts') := by
  intro n hn
  have hchars : chars (ofTokens ts).lines n <:+: chars (ofTokens ts').lines n := by
    rw [chars_ofTokens, chars_ofTokens]
    exact h.flatMap _
  rw [hasLine_iff] at hn
  have hn' : chars (ofTokens ts').lines n ≠ [] := by
    intro hnil
    rw [hnil] at hchars
    exact hn (List.infix_nil.1 hchars)
  have hline : (ofTokens ts).line? n = some (String.ofList _) := (line?_eq ts n).trans (if_neg hn)
  have hline' : (ofTokens ts').line? n = some (String.ofList _) :=
    (line?_eq ts' n).trans (if_neg hn')
  refine ⟨(hasLine_iff ts' n).2 hn', _, _, hline, hline', ?_⟩
  rw [String.toList_ofList, String.toList_ofList]
  exact Text.isInfix_dropLastBreak hchars

end SourceIndex

end TemplateLint
