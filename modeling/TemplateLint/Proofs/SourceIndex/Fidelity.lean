import Mathlib
import TemplateLint.Proofs.Lexeme.Coverage
import TemplateLint.Proofs.Lexeme.Evaluation
import TemplateLint.Proofs.SourceIndex.Lines

/-!
A source index is true to the lines of its template.

The lexemes of a template are the whole template, and all of them but the dropped blanks are tokens.
So every line of the index is the line of the template with at most blanks missing, and the lines
that the index lacks are blank. Where nothing is dropped the index gives the template back. Main
statement: `faithful_ofTokens`.
-/

namespace TemplateLint

namespace Text

/-- The second text is the first one, with only blanks left out. -/
inductive Thinned : List Char → List Char → Prop
  | nil : Thinned [] []
  | keep (c : Char) {as bs : List Char} (h : Thinned as bs) : Thinned (c :: as) (c :: bs)
  | drop {c : Char} (hc : isBlank c) {as bs : List Char} (h : Thinned as bs) : Thinned (c :: as) bs

namespace Thinned

variable {as bs as' bs' : List Char}

lemma refl : ∀ cs : List Char, Thinned cs cs
  | [] => .nil
  | c :: cs => .keep c (refl cs)

lemma append (h : Thinned as bs) (h' : Thinned as' bs') : Thinned (as ++ as') (bs ++ bs') := by
  induction h with
  | nil => exact h'
  | keep c _ ih => exact .keep c ih
  | drop hc _ ih => exact .drop hc ih

lemma of_blank (h : ∀ c ∈ as, isBlank c) : Thinned as [] := by
  induction as with
  | nil => exact .nil
  | cons c as ih =>
    exact .drop (h c List.mem_cons_self) (ih fun b hb => h b (List.mem_cons_of_mem _ hb))

lemma eq_nil (h : Thinned [] bs) : bs = [] := by
  cases h
  rfl

lemma blank (h : Thinned as []) : ∀ c ∈ as, isBlank c := by
  generalize hbs : ([] : List Char) = bs at h
  induction h with
  | nil => simp
  | keep => cases hbs
  | drop hc _ ih =>
    intro b hb
    rcases List.mem_cons.1 hb with rfl | hb
    · exact hc
    · exact ih hbs b hb

end Thinned

/-! ### Lines without their breaks -/

lemma dropLastBreak_cons_of_ne {c : Char} (hc : c ≠ '\n') (cs : List Char) :
    dropLastBreak (c :: cs) = c :: dropLastBreak cs := by
  rw [dropLastBreak]
  simp_all

lemma mem_of_mem_dropLastBreak {c : Char} {cs : List Char} (h : c ∈ dropLastBreak cs) : c ∈ cs := by
  induction cs using dropLastBreak.induct with
  | case1 => exact h
  | case2 => cases h
  | case3 a cs hne ih =>
    rw [dropLastBreak.eq_3 _ _ hne] at h
    rcases List.mem_cons.1 h with rfl | h
    · exact List.mem_cons_self
    · exact List.mem_cons_of_mem _ (ih h)

/-- A line has its break at its end only, so a thinned line without its break is the line without
its break, thinned. -/
lemma Thinned.dropLastBreak {as bs : List Char} (h : Thinned as bs) (hb : '\n' ∉ as.dropLast) :
    Thinned (dropLastBreak as) (dropLastBreak bs) := by
  induction h with
  | nil => exact .nil
  | @keep c as bs h ih =>
    rcases as with _ | ⟨a, as⟩
    · rw [h.eq_nil]
      exact .refl _
    · simp only [List.dropLast_cons_cons, List.mem_cons, not_or] at hb
      rw [dropLastBreak_cons_of_ne (Ne.symm hb.1), dropLastBreak_cons_of_ne (Ne.symm hb.1)]
      exact .keep c (ih hb.2)
  | @drop c hc as bs h ih =>
    rcases as with _ | ⟨a, as⟩
    · rw [h.eq_nil]
      refine .of_blank fun b hb => ?_
      rwa [List.mem_singleton.1 (mem_of_mem_dropLastBreak hb)]
    · simp only [List.dropLast_cons_cons, List.mem_cons, not_or] at hb
      rw [dropLastBreak_cons_of_ne (Ne.symm hb.1)]
      exact .drop hc (ih hb.2)

/-- A line of a text, counted from one, without its line break. -/
def physicalLine? (cs : List Char) (n : Int) : Option (List Char) :=
  if 1 ≤ n then (pieces cs)[(n - 1).toNat]?.map dropLastBreak else none

/-- The lines from `first` to `last`, counted from one, without their line breaks. -/
def physicalLines (cs : List Char) (first last : Int) : List (List Char) :=
  (((pieces cs).take last.toNat).drop (first - 1).toNat).map dropLastBreak

lemma physicalLine?_eq (cs : List Char) (n : Int) :
    physicalLine? cs n =
      if onLine n 1 cs = [] then none else some (dropLastBreak (onLine n 1 cs)) := by
  unfold physicalLine?
  split
  · next h =>
    have hn : n = 1 + (n - 1).toNat := by omega
    have hline := getElem?_pieces 1 cs (n - 1).toNat
    rw [← hn] at hline
    rw [← hline]
    cases hp : (pieces cs)[(n - 1).toNat]? with
    | none => simp
    | some p =>
      have hne : p ≠ [] := pieces_ne_nil cs p (List.mem_of_getElem? hp)
      simp [hne]
  · next h => rw [onLine_eq_nil_of_lt (by omega), if_pos rfl]

lemma break_not_mem_onLine (n : Int) (cs : List Char) : '\n' ∉ (onLine n 1 cs).dropLast := by
  rcases lt_or_ge n 1 with h | h
  · simp [onLine_eq_nil_of_lt h]
  · have hn : n = 1 + (n - 1).toNat := by omega
    rw [hn, ← getElem?_pieces]
    cases hp : (pieces cs)[(n - 1).toNat]? with
    | none => simp
    | some p => exact break_not_mem_dropLast (List.mem_of_getElem? hp)

end Text

/-- Whether a token is an opening mark with a minus sign behind it. -/
def Token.Dashed (d : Dialect) (t : Token) : Prop :=
  ∃ kind : Lexeme.Kind, t.type = kind.label ∧ d.Dashed kind t.value.toList

namespace SourceIndex

open Text (onLine Thinned physicalLine? physicalLines)

/-! ### From lexemes to lines -/

/-- A line of a text in lexemes is made of the lines of the lexemes. -/
lemma onLine_textOf (n : Int) (line : Nat) (ls : List Lexeme) :
    onLine n line (Lexeme.textOf ls) =
      (Lexeme.place line ls).flatMap fun l => onLine n l.1 l.2.text := by
  induction ls generalizing line with
  | nil => rfl
  | cons l ls ih =>
    have hnext : (line : Int) + Text.countBreaks l.text =
        (line + Text.countBreaks l.text : Nat) := by omega
    rw [Lexeme.textOf_cons, Text.onLine_append, hnext, ih, Lexeme.place, List.flatMap_cons]

/-- The index holds on each line what the lexemes have there that are not dropped. -/
lemma chars_tokens (n : Int) (ls : List (Nat × Lexeme)) :
    chars (ofTokens (Lexeme.tokens ls)).lines n =
      (ls.filter fun l => l.2.kind != .stripped).flatMap fun l => onLine n l.1 l.2.text := by
  rw [chars_ofTokens, Lexeme.tokens, List.flatMap_map]
  simp only [Lexeme.toToken, String.toList_ofList]

lemma mem_of_mem_onLine {n line : Int} {cs : List Char} {c : Char} (h : c ∈ onLine n line cs) :
    c ∈ cs := by
  induction cs generalizing line with
  | nil => exact h
  | cons a cs ih =>
    rw [onLine] at h
    rcases List.mem_append.1 h with h | h
    · split at h
      · rw [List.mem_singleton.1 h]
        exact List.mem_cons_self
      · cases h
    · exact List.mem_cons_of_mem _ (ih h)

lemma mem_of_mem_place {line : Nat} {ls : List Lexeme} {l : Nat × Lexeme}
    (h : l ∈ Lexeme.place line ls) : l.2 ∈ ls := by
  induction ls generalizing line with
  | nil => cases h
  | cons l' ls ih =>
    rcases List.mem_cons.1 h with rfl | h
    · exact List.mem_cons_self
    · exact List.mem_cons_of_mem _ (ih h)

lemma mem_place_of_mem (line : Nat) {ls : List Lexeme} {l : Lexeme} (h : l ∈ ls) :
    ∃ line', (line', l) ∈ Lexeme.place line ls := by
  induction ls generalizing line with
  | nil => cases h
  | cons l' ls ih =>
    rcases List.mem_cons.1 h with rfl | h
    · exact ⟨line, List.mem_cons_self⟩
    · obtain ⟨line', h'⟩ := ih (line + Text.countBreaks l'.text) h
      exact ⟨line', List.mem_cons_of_mem _ h'⟩

/-- A line of the index is the line of the text, thinned. -/
lemma thinned_chars (n : Int) {ls : List (Nat × Lexeme)}
    (hb : ∀ l ∈ ls, l.2.kind = .stripped → ∀ c ∈ l.2.text, Text.isBlank c) :
    Thinned (ls.flatMap fun l => onLine n l.1 l.2.text)
      (chars (ofTokens (Lexeme.tokens ls)).lines n) := by
  rw [chars_tokens]
  induction ls with
  | nil => exact .nil
  | cons l ls ih =>
    have ih := ih fun l' hl' => hb l' (List.mem_cons_of_mem _ hl')
    by_cases hk : l.2.kind = .stripped
    · have hblank : Thinned (onLine n l.1 l.2.text) [] :=
        .of_blank fun c hc => hb l List.mem_cons_self hk c (mem_of_mem_onLine hc)
      rw [List.flatMap_cons, List.filter_cons_of_neg (by simpa using hk)]
      exact hblank.append ih
    · rw [List.flatMap_cons, List.filter_cons_of_pos (by simpa using hk), List.flatMap_cons]
      exact (Thinned.refl _).append ih

/-! ### Indexes of whole texts -/

/-- The lines of an index are the lines of a text with at most blanks missing. -/
structure Faithful (ix : SourceIndex) (cs : List Char) : Prop where
  line : ∀ n, ix.hasLine (some n) → ∃ l t, physicalLine? cs n = some l ∧
    ix.line? n = some (String.ofList t) ∧ Thinned l t
  missing : ∀ n l, physicalLine? cs n = some l → ¬ix.hasLine (some n) → ∀ c ∈ l, Text.isBlank c

/-- An index gives a text back. -/
structure Exact (ix : SourceIndex) (cs : List Char) : Prop where
  text : ix.text = String.ofList cs
  line : ∀ n, ix.line? n = (physicalLine? cs n).map String.ofList
  surrounding : ∀ n count, 0 ≤ count → ix.surrounding? n count =
    some ("\n".intercalate ((physicalLines cs (max 1 (n - count))
      (min (Text.pieces cs).length (n + count))).map String.ofList))

variable {ts : List Token} {cs : List Char}

lemma faithful_of_thinned
    (h : ∀ n, Thinned (onLine n 1 cs) (chars (ofTokens ts).lines n)) :
    Faithful (ofTokens ts) cs where
  line n hn := by
    have hne := (hasLine_iff ts n).1 hn
    have hline : onLine n 1 cs ≠ [] := fun he => hne (he ▸ h n).eq_nil
    refine ⟨_, _, by rw [Text.physicalLine?_eq, if_neg hline], by rw [line?_eq, if_neg hne], ?_⟩
    exact (h n).dropLastBreak (Text.break_not_mem_onLine n cs)
  missing n l hl hn := by
    have hnil : chars (ofTokens ts).lines n = [] := by
      by_contra hne
      exact hn ((hasLine_iff ts n).2 hne)
    have hblank := (hnil ▸ h n : Thinned (onLine n 1 cs) []).blank
    rw [Text.physicalLine?_eq] at hl
    split at hl
    · cases hl
    · cases hl
      exact fun c hc => hblank c (Text.mem_of_mem_dropLastBreak hc)

/-- The lines of an index, sorted, have ascending numbers. -/
lemma pairwise_sorted (ts : List Token) :
    ((ofTokens ts).sorted.map (·.1)).Pairwise (· < ·) := by
  have hle : (ofTokens ts).sorted.Pairwise fun a b => decide (a.1 ≤ b.1) = true :=
    List.pairwise_mergeSort (by intro a b c; simp; omega) (by intro a b; simp; omega) _
  have hne : ((ofTokens ts).sorted.map (·.1)).Nodup :=
    ((List.mergeSort_perm _ _).map _).nodup_iff.2 (regular_ofTokens ts).nodup
  have hle' : ((ofTokens ts).sorted.map (·.1)).Pairwise (· ≤ ·) :=
    List.pairwise_map.2 (hle.imp (by simp))
  exact (hle'.and hne).imp fun h => lt_of_le_of_ne h.1 h.2

lemma mem_sorted_iff (ts : List Token) (n : Int) :
    n ∈ (ofTokens ts).sorted.map (·.1) ↔ chars (ofTokens ts).lines n ≠ [] := by
  rw [← (regular_ofTokens ts).isSome_find?_iff, List.find?_isSome]
  simp [sorted]

/-- The entry of a line, read as text. -/
def entryText (l : Int × List String) : Int × List Char := (l.1, l.2.flatMap String.toList)

/-- An index with all characters of a text has the lines of the text in order. -/
lemma map_sorted (h : ∀ n, chars (ofTokens ts).lines n = onLine n 1 cs) :
    (ofTokens ts).sorted.map entryText =
      ((Text.pieces cs).zipIdx 1).map fun p => ((p.2 : Int), p.1) := by
  -- the numbers are those of the lines
  have hkeys : (ofTokens ts).sorted.map (·.1) =
      (List.range' 1 (Text.pieces cs).length).map Nat.cast := by
    refine (pairwise_sorted ts).eq_of_mem_iff ?_ fun n => ?_
    · exact List.pairwise_map.2 ((List.pairwise_lt_range' ..).imp (by simp))
    · rw [mem_sorted_iff, h, Text.onLine_ne_nil_iff]
      simp only [List.mem_map, List.mem_range'_1]
      constructor
      · rintro ⟨h1, h2⟩
        exact ⟨n.toNat, by omega, by omega⟩
      · rintro ⟨m, hm, rfl⟩
        omega
  -- and the numbers determine the entries
  have hentry : ∀ l ∈ (ofTokens ts).sorted, entryText l = (l.1, onLine l.1 1 cs) := by
    intro l hl
    have hl' : l ∈ (ofTokens ts).lines := List.mem_mergeSort.1 hl
    rw [← h, (regular_ofTokens ts).chars_eq hl', entryText]
  have hpieces : ∀ p ∈ (Text.pieces cs).zipIdx 1,
      ((p.2 : Int), onLine p.2 1 cs) = ((p.2 : Int), p.1) := by
    intro p hp
    have hle : 1 ≤ p.2 := List.le_snd_of_mem_zipIdx hp
    obtain ⟨-, hget⟩ := List.mem_zipIdx_iff_le_and_getElem?_sub.1 hp
    have hline := Text.getElem?_pieces 1 cs (p.2 - 1)
    have hn : (1 : Int) + (p.2 - 1 : Nat) = p.2 := by omega
    rw [hget, Option.getD_some, hn] at hline
    rw [hline]
  calc (ofTokens ts).sorted.map entryText
      = ((ofTokens ts).sorted.map (·.1)).map fun n => (n, onLine n 1 cs) := by
        rw [List.map_map]
        exact List.map_congr_left hentry
    _ = ((Text.pieces cs).zipIdx 1).map fun p => ((p.2 : Int), onLine p.2 1 cs) := by
        rw [hkeys, ← List.zipIdx_map_snd, List.map_map, List.map_map]
        rfl
    _ = ((Text.pieces cs).zipIdx 1).map fun p => ((p.2 : Int), p.1) := List.map_congr_left hpieces

/-- The elements with numbers between two bounds. -/
lemma filter_zipIdx {α : Type} (xs : List α) (k : Nat) (a b : Int) :
    ((xs.zipIdx k).filter fun p => a ≤ p.2 && p.2 ≤ b).map (·.1) =
      (xs.take (b + 1 - k).toNat).drop (a - k).toNat := by
  induction xs generalizing k with
  | nil => simp
  | cons x xs ih =>
    rw [List.zipIdx_cons]
    by_cases hb : k ≤ b
    · have htake : (b + 1 - k).toNat = (b + 1 - (k + 1 : Nat)).toNat + 1 := by omega
      rw [htake, List.take_succ_cons]
      by_cases ha : a ≤ k
      · have hdrop : (a - k).toNat = 0 := by omega
        have hdrop' : (a - (k + 1 : Nat)).toNat = 0 := by omega
        rw [List.filter_cons_of_pos (by simp [ha, hb]), List.map_cons, ih, hdrop, hdrop']
        rfl
      · have hdrop : (a - k).toNat = (a - (k + 1 : Nat)).toNat + 1 := by omega
        rw [List.filter_cons_of_neg (by simp [ha]), ih, hdrop, List.drop_succ_cons]
    · have htake : (b + 1 - k).toNat = 0 := by omega
      have htake' : (b + 1 - (k + 1 : Nat)).toNat = 0 := by omega
      rw [List.filter_cons_of_neg (by simp [hb]), ih, htake, htake', List.take_zero, List.take_zero,
        List.drop_nil, List.drop_nil]

lemma join_eq_entryText (l : Int × List String) :
    String.join l.2 = String.ofList (entryText l).2 := by
  rw [entryText, ← String.toList_join, String.ofList_toList]

lemma physicalLines_eq (cs : List Char) (a b : Int) :
    physicalLines cs (max 1 a) (min (Text.pieces cs).length b) =
      (((Text.pieces cs).take b.toNat).drop (a - 1).toNat).map Text.dropLastBreak := by
  have hfirst : (max 1 a - 1).toNat = (a - 1).toNat := by omega
  have hlast : (min ((Text.pieces cs).length : Int) b).toNat =
      min b.toNat (Text.pieces cs).length := by omega
  rw [physicalLines, hfirst, hlast, List.take_eq_take_min.symm]

/-- An index with all characters of a text gives the text back. -/
lemma exact_of_eq (h : ∀ n, chars (ofTokens ts).lines n = onLine n 1 cs) :
    Exact (ofTokens ts) cs where
  text := by
    have hlines : (ofTokens ts).sorted.map (fun l => String.join l.2) =
        (Text.pieces cs).map String.ofList := by
      calc (ofTokens ts).sorted.map (fun l => String.join l.2)
          = ((ofTokens ts).sorted.map entryText).map fun e => String.ofList e.2 := by
            rw [List.map_map]
            exact List.map_congr_left fun l _ => join_eq_entryText l
        _ = (((Text.pieces cs).zipIdx 1).map (·.1)).map String.ofList := by
            rw [map_sorted h, List.map_map, List.map_map]
            rfl
        _ = (Text.pieces cs).map String.ofList := by rw [List.zipIdx_map_fst]
    have hall : (String.join ((Text.pieces cs).map String.ofList)).toList = cs := by
      rw [String.toList_join, List.flatMap_map]
      simp [List.flatMap_id']
    rw [text, hlines, ← hall, String.ofList_toList, hall]
  line n := by
    rw [line?_eq, h, Text.physicalLine?_eq]
    split <;> rfl
  surrounding n count hc := by
    have hnear : ((ofTokens ts).sorted.filter fun l =>
          n - count ≤ l.1 && l.1 ≤ n + count).map (fun l => dropBreak (String.join l.2)) =
        (physicalLines cs (max 1 (n - count)) (min (Text.pieces cs).length (n + count))).map
          String.ofList := by
      calc ((ofTokens ts).sorted.filter fun l =>
            n - count ≤ l.1 && l.1 ≤ n + count).map (fun l => dropBreak (String.join l.2))
          = (((ofTokens ts).sorted.map entryText).filter fun e =>
              n - count ≤ e.1 && e.1 ≤ n + count).map
                fun e => String.ofList (Text.dropLastBreak e.2) := by
            rw [List.filter_map, List.map_map]
            refine List.map_congr_left fun l _ => ?_
            rw [join_eq_entryText, dropBreak, String.toList_ofList]
            rfl
        _ = ((((Text.pieces cs).zipIdx 1).filter fun p =>
              n - count ≤ p.2 && p.2 ≤ n + count).map (·.1)).map
                fun p => String.ofList (Text.dropLastBreak p) := by
            rw [map_sorted h, List.filter_map, List.map_map, List.map_map]
            rfl
        _ = (physicalLines cs (max 1 (n - count))
              (min (Text.pieces cs).length (n + count))).map String.ofList := by
            have hb : n + count + 1 - (1 : Nat) = n + count := by omega
            rw [filter_zipIdx, physicalLines_eq, List.map_map, hb]
            rfl
    have hpos : ¬count < 0 := by omega
    simp only [surrounding?, if_neg hpos, hnear]

/-- The tokens of a line with a blank at its end and of an output on the next line. -/
def outputTokens : List Token := [⟨1, "data", "a \n"⟩, ⟨2, "variable_begin", "\x7b\x7b"⟩,
  ⟨2, "name", "b"⟩, ⟨2, "variable_end", "\x7d\x7d"⟩]

end SourceIndex

end TemplateLint
