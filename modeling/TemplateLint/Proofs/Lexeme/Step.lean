import Mathlib.Tactic.Common
import TemplateLint.Lexeme.Lexer

/-!
What one step of the lexer can produce.

Every scanner splits off the front of the text that it is given. A step takes the text up to a mark
together with the mark, or the inside of a comment, or one lexeme of a tag. Main statement:
`step_cases`.
-/

namespace TemplateLint

/-! ### Scanners -/

namespace Scan

lemma splits_optional (p : Char → Bool) : Splits (optional p) := by
  rintro (_ | ⟨c, cs⟩) t r h
  · cases h
    rfl
  · simp only [optional] at h
    split at h <;> · cases h; rfl

lemma splits_exactly (p : Char → Bool) : Splits (exactly p) := by
  rintro (_ | ⟨c, cs⟩) t r h
  · cases h
  · simp only [exactly] at h
    split at h
    · cases h
      rfl
    · cases h

lemma groups_append (p : Char → Bool) (cs : List Char) :
    (groups p cs).1 ++ (groups p cs).2 = cs := by
  induction cs using groups.induct p with
  | case1 d cs hd t r h ih => simpa [groups, hd] using ih
  | case2 d cs hd => simp [groups, hd]
  | case3 c cs hne hc t r h ih => simpa [groups, hc] using ih
  | case4 c cs hne hc => simp [groups, hc]
  | case5 => rfl

lemma splits_groups (p : Char → Bool) : Splits fun cs => some (groups p cs) := by
  intro cs t r h
  have := groups_append p cs
  simp only [Option.some.injEq] at h
  rw [h] at this
  exact this

lemma splits_digits : Splits digits := by
  rintro (_ | ⟨c, cs⟩) t r h
  · cases h
  · simp only [digits] at h
    split at h
    · have := groups_append Text.isDecimal cs
      cases h
      rw [List.cons_append, this]
    · cases h

lemma splits_groups1 (p : Char → Bool) : Splits (groups1 p) := by
  intro cs t r h
  have := groups_append p cs
  unfold groups1 at h
  split at h
  · cases h
  · next ht =>
    cases h
    rw [ht] at this
    exact this

lemma splits_exponent : Splits exponent :=
  splits_seq (splits_exactly _) (splits_seq (splits_optional _) splits_digits)

lemma splits_places : Splits places := splits_seq (splits_exactly _) splits_digits

lemma splits_float : Splits float :=
  splits_seq splits_digits (splits_orElse (splits_seq splits_places splits_exponent)
    (splits_orElse splits_exponent splits_places))

lemma splits_based (lower upper : Char) (p : Char → Bool) : Splits (based lower upper p) :=
  splits_seq (splits_exactly _) (splits_seq (splits_exactly _) (splits_groups1 p))

lemma splits_integer : Splits integer :=
  splits_orElse (splits_based _ _ _) <| splits_orElse (splits_based _ _ _) <|
    splits_orElse (splits_based _ _ _) <|
      splits_orElse (splits_seq (splits_exactly _) (splits_groups _))
        (splits_seq (splits_exactly _) (splits_groups _))

lemma splits_run1 (p : Char → Bool) : Splits (run1 p) := by
  intro cs t r h
  unfold run1 at h
  split at h
  · next hr =>
    cases h
    exact splits_run p _ _ _ hr
  · cases h

lemma stringBody_append {quote : Char} {cs t r : List Char}
    (h : stringBody quote cs = some (t, r)) : t ++ r = cs := by
  induction cs using stringBody.induct quote generalizing t r with
  | case1 c cs ih =>
    rw [stringBody, Option.map_eq_some_iff] at h
    obtain ⟨⟨t', r'⟩, h', he⟩ := h
    cases he
    simp only [List.cons_append, ih h']
  | case2 cs hne =>
    rw [stringBody.eq_2 _ _ _ hne, if_pos rfl] at h
    cases h
    rfl
  | case3 cs hne hq =>
    rw [stringBody.eq_2 _ _ _ hne, if_neg hq, if_pos rfl] at h
    cases h
  | case4 c cs hne hq hb ih =>
    rw [stringBody.eq_2 _ _ _ hne, if_neg hq, if_neg hb, Option.map_eq_some_iff] at h
    obtain ⟨⟨t', r'⟩, h', he⟩ := h
    cases he
    rw [List.cons_append, ih h']
  | case5 => cases h

lemma splits_string : Splits string := by
  rintro (_ | ⟨c, cs⟩) t r h
  · cases h
  · simp only [string] at h
    split at h
    · obtain ⟨⟨t', r'⟩, h', he⟩ := Option.map_eq_some_iff.1 h
      cases he
      rw [List.cons_append, stringBody_append h']
    · cases h

lemma operator_eq_some {cs t r : List Char} (h : operator cs = some (t, r)) :
    String.ofList t ∈ operators ∧ t ++ r = cs := by
  obtain ⟨w, hw, hl⟩ := List.exists_of_findSome?_eq_some h
  obtain ⟨rfl, hcs⟩ := literal_eq_some hl
  exact ⟨by simpa using hw, hcs⟩

/-- What is found in a text stands behind the text that has been gone through. -/
lemma findFirst_eq_some {α : Type} {m : Option Char → List Char → Option α} {prev : Option Char}
    {cs t : List Char} {a : α} (h : findFirst m prev cs = some (t, a)) :
    ∃ prev' rest, m prev' rest = some a ∧ t ++ rest = cs := by
  induction cs generalizing prev t with
  | nil =>
    obtain ⟨b, hb, he⟩ := Option.map_eq_some_iff.1 h
    cases he
    exact ⟨prev, [], hb, rfl⟩
  | cons c cs ih =>
    unfold findFirst at h
    split at h
    · next b hb =>
      cases h
      exact ⟨prev, c :: cs, hb, rfl⟩
    · obtain ⟨⟨t', b⟩, hb, he⟩ := Option.map_eq_some_iff.1 h
      cases he
      obtain ⟨prev', rest, hm, hcs⟩ := ih hb
      exact ⟨prev', rest, hm, by rw [List.cons_append, hcs]⟩

end Scan

/-! ### Marks -/

namespace Lexer

open Scan (Splits)

variable {d : Dialect}

lemma splits_closing (mark : String) : Splits (closing d mark) := by
  have hend : Splits (blockSuffix d) := by
    unfold blockSuffix
    split
    · exact Scan.splits_optional _
    · intro cs t r h
      cases h
      rfl
  exact Scan.splits_orElse (Scan.splits_seq (Scan.splits_literal _) (Scan.splits_literal _)) <|
    Scan.splits_orElse (Scan.splits_seq (Scan.splits_literal _)
      (Scan.splits_seq (Scan.splits_literal _) (Scan.splits_run _))) <|
    Scan.splits_seq (Scan.splits_literal _) hend

lemma splits_variableClosing : Splits (variableClosing d) :=
  Scan.splits_orElse (Scan.splits_seq (Scan.splits_literal _)
    (Scan.splits_seq (Scan.splits_literal _) (Scan.splits_run _))) (Scan.splits_literal _)

lemma splits_rawClosing : Splits (rawClosing d) :=
  Scan.splits_orElse (Scan.splits_seq (Scan.splits_literal _)
    (Scan.splits_seq (Scan.splits_literal _) (Scan.splits_run _))) (Scan.splits_literal _)

lemma splits_lineStatementClosing : Splits lineStatementClosing := by
  intro cs t r h
  simp only [lineStatementClosing] at h
  split at h
  · next hl =>
    cases h
    have hall := List.takeWhile_append_dropWhile (p := Text.isBlank) (l := cs)
    have : cs.dropWhile Text.isBlank = [] := by
      have := congrArg List.length hall
      rw [List.length_append] at this
      exact List.length_eq_zero_iff.1 (by omega)
    rw [this] at hall
    exact hall
  · split at h
    · cases h
      exact List.take_append_drop ..
    · cases h

lemma control_eq {cs sign rest : List Char} {c : Control} (h : control cs = (c, sign, rest)) :
    sign ++ rest = cs ∧ (c = .strip → sign = ['-']) := by
  unfold control at h
  split at h <;> cases h <;> simp

end Lexer

/-- The mark of a dialect that lexemes of a kind start with, blanks apart. -/
def Dialect.mark? (d : Dialect) : Lexeme.Kind → Option String
  | .rawBegin | .rawEnd | .blockBegin => some d.blockStart
  | .commentBegin => some d.commentStart
  | .variableBegin => some d.variableStart
  | .lineStatementBegin => d.lineStatement
  | .lineCommentBegin => d.lineComment
  | _ => none

/-- Whether a text of a kind is an opening mark with a minus sign behind it. A tag around raw text
goes on after the sign, and blanks stand before the mark of a line. -/
def Dialect.Dashed (d : Dialect) (kind : Lexeme.Kind) (text : List Char) : Prop :=
  ∃ mark, d.mark? kind = some mark ∧
    if kind = .rawBegin ∨ kind = .rawEnd then (mark.toList ++ ['-']) <+: text
    else (mark.toList ++ ['-']) <:+ text

namespace Lexer

variable {d : Dialect}

/-- A mark that the dialect has: it is of a kind that opens something, and if the blanks before it
are to be dropped, a minus sign shows that. -/
structure Mark.Valid (d : Dialect) (m : Mark) : Prop where
  kind : d.mark? m.kind ≠ none
  strip : m.control = .strip → d.Dashed m.kind m.text

lemma signed_eq_some {kind : Lexeme.Kind} {s : Scan} {cs : List Char} {m : Mark} {mark : String}
    (hk : d.mark? kind = some mark) (hr : kind ≠ .rawBegin ∧ kind ≠ .rawEnd)
    (hs : ∀ cs t r, s cs = some (t, r) → mark.toList <:+ t ∧ t ++ r = cs)
    (h : signed kind s cs = some m) : m.Valid d ∧ m.kind = kind ∧ m.text ++ m.rest = cs := by
  rcases hsc : s cs with _ | ⟨t, r⟩
  · simp [signed, hsc] at h
  · obtain ⟨⟨gap, hgap⟩, hcs⟩ := hs _ _ _ hsc
    rcases hctl : control r with ⟨c, sign, rest⟩
    obtain ⟨happend, hstrip⟩ := control_eq hctl
    simp only [signed, hsc, hctl, Option.some.injEq] at h
    cases h
    refine ⟨⟨by simp [hk], fun hc => ⟨mark, hk, ?_⟩⟩, rfl, ?_⟩
    · rw [if_neg (by tauto)]
      exact ⟨gap, by simp [← hgap, hstrip hc]⟩
    · rw [List.append_assoc, happend, hcs]

lemma wordTag_eq_some {kind : Lexeme.Kind} {word : String} {ending : Scan} {cs : List Char}
    {m : Mark} (hk : kind = .rawBegin ∨ kind = .rawEnd) (he : Scan.Splits ending)
    (h : wordTag d kind word ending cs = some m) :
    m.Valid d ∧ m.kind = kind ∧ m.text ++ m.rest = cs := by
  have hmark : d.mark? kind = some d.blockStart := by rcases hk with rfl | rfl <;> rfl
  have hinside : Scan.Splits (Scan.runThen Text.isBlank
      (Scan.seq (Scan.literal word.toList) (Scan.runThen Text.isBlank ending))) :=
    Scan.splits_runThen (Scan.splits_seq (Scan.splits_literal _) (Scan.splits_runThen he))
  rcases hsc : Scan.literal d.blockStart.toList cs with _ | ⟨t, r⟩
  · simp [wordTag, hsc] at h
  · obtain ⟨rfl, hcs⟩ := Scan.literal_eq_some hsc
    rcases hctl : control r with ⟨c, sign, rest⟩
    obtain ⟨happend, hstrip⟩ := control_eq hctl
    simp only [wordTag, hsc, hctl, Option.map_eq_some_iff] at h
    obtain ⟨⟨u, rest'⟩, hu, hm⟩ := h
    cases hm
    refine ⟨⟨by simp [hmark], fun hc => ⟨_, hmark, ?_⟩⟩, rfl, ?_⟩
    · rw [if_pos hk, ← hstrip hc]
      exact List.prefix_append _ _
    · rw [List.append_assoc, hinside _ _ _ hu, List.append_assoc, happend, hcs]

lemma runThen_literal {p : Char → Bool} {mark cs t r : List Char}
    (h : Scan.runThen p (Scan.literal mark) cs = some (t, r)) : mark <:+ t ∧ t ++ r = cs := by
  refine ⟨?_, Scan.splits_runThen (Scan.splits_literal mark) _ _ _ h⟩
  induction cs generalizing t with
  | nil =>
    simp only [Scan.runThen] at h
    exact (Scan.literal_eq_some h).1 ▸ List.suffix_refl _
  | cons c cs ih =>
    simp only [Scan.runThen] at h
    split at h
    · split at h
      · next u v hu =>
        cases h
        exact (ih hu).trans (List.suffix_cons _ _)
      · exact (Scan.literal_eq_some h).1 ▸ List.suffix_refl _
    · exact (Scan.literal_eq_some h).1 ▸ List.suffix_refl _

/-- The marks that are looked for, each with the kind that it opens. -/
lemma mark?_of_mem_marks {k : Lexeme.Kind} {mark : String} (h : (k, mark) ∈ marks d) :
    d.mark? k = some mark ∧ k ≠ .rawBegin ∧ k ≠ .rawEnd := by
  simp only [marks, List.mem_mergeSort, List.mem_append, List.mem_cons, List.not_mem_nil,
    or_false, Option.mem_toList, Option.map_eq_some_iff, Prod.mk.injEq] at h
  rcases h with ((⟨rfl, rfl⟩ | ⟨_, h, rfl, rfl⟩) | ⟨_, h, rfl, rfl⟩) | ⟨rfl, rfl⟩ | ⟨rfl, rfl⟩ <;>
    simp_all [Dialect.mark?]

lemma markOf_eq_some {prev : Option Char} {cs : List Char} {k : Lexeme.Kind} {mark : String}
    {m : Mark} (hmem : (k, mark) ∈ marks d) (h : markOf prev cs (k, mark) = some m) :
    m.Valid d ∧ m.kind = k ∧ m.text ++ m.rest = cs := by
  obtain ⟨hk, hraw⟩ := mark?_of_mem_marks hmem
  unfold markOf at h
  split at h
  · next he =>
    cases he
    split at h
    · exact signed_eq_some hk hraw (fun _ _ _ => runThen_literal) h
    · cases h
  · next he =>
    cases he
    split at h
    · exact signed_eq_some hk hraw (fun _ _ _ => runThen_literal) h
    · cases h
  · next he =>
    cases he
    refine signed_eq_some hk hraw (fun cs t r hl => ?_) h
    obtain ⟨rfl, hcs⟩ := Scan.literal_eq_some hl
    exact ⟨List.suffix_refl _, hcs⟩

lemma markAt_eq_some {prev : Option Char} {cs : List Char} {m : Mark}
    (h : markAt d prev cs = some m) :
    m.Valid d ∧ m.kind ≠ .rawEnd ∧ m.text ++ m.rest = cs := by
  unfold markAt at h
  split at h
  · next hraw =>
    cases h
    obtain ⟨hv, hk, hcs⟩ := wordTag_eq_some (Or.inl rfl) splits_rawClosing hraw
    exact ⟨hv, by simp [hk], hcs⟩
  · obtain ⟨⟨k, mark⟩, hmem, hm⟩ := List.exists_of_findSome?_eq_some h
    obtain ⟨hv, rfl, hcs⟩ := markOf_eq_some hmem hm
    exact ⟨hv, (mark?_of_mem_marks hmem).2.2, hcs⟩

lemma endRawTag_eq_some {cs : List Char} {m : Mark} (h : endRawTag d cs = some m) :
    m.Valid d ∧ m.kind = .rawEnd ∧ m.text ++ m.rest = cs :=
  wordTag_eq_some (Or.inr rfl) (splits_closing _) h

/-! ### Steps -/

/-- The kinds of lexemes that stand inside of tags. -/
def isInner (k : Lexeme.Kind) : Bool :=
  [.whitespace, .float, .integer, .name, .string, .operator].contains k

/-- What a step can produce in a state from a text: the lexemes, the mode after them, the rest. -/
inductive Produces (d : Dialect) (st : State) : List Char → List Lexeme → Mode → List Char → Prop
  | mark (text : List Char) (m : Mark) (hv : m.Valid d)
      (hm : st.mode = .root ∧ m.kind ≠ .rawEnd ∨ st.mode = .raw ∧ m.kind = .rawEnd) :
    Produces d st (text ++ (m.text ++ m.rest)) (beforeAndMark d st text m) (modeOf m.kind) m.rest
  | data (cs : List Char) (hm : st.mode = .root) : Produces d st cs [⟨.data, cs⟩] .root []
  | comment (text ending rest : List Char) (hm : st.mode = .comment) :
    Produces d st (text ++ (ending ++ rest))
      (Lexeme.ofText .comment text ++ [⟨.commentEnd, ending⟩]) .root rest
  | lineComment (text rest : List Char) (hm : st.mode = .lineComment) :
    Produces d st (text ++ rest)
      (Lexeme.ofText .lineComment text ++ [⟨.lineCommentEnd, []⟩]) .root rest
  | ending (k : Lexeme.Kind) (s : Scan) (text rest : List Char)
      (hk : ending? d st.mode = some (k, s)) :
    Produces d st (text ++ rest) [⟨k, text⟩] .root rest
  | inner (k : Lexeme.Kind) (text rest : List Char) (hk : isInner k)
      (hm : (ending? d st.mode).isSome) (ho : k = .operator → String.ofList text ∈ Scan.operators) :
    Produces d st (text ++ rest) [⟨k, text⟩] st.mode rest

lemma splits_ending {mode : Mode} {k : Lexeme.Kind} {s : Scan}
    (h : ending? d mode = some (k, s)) : Scan.Splits s := by
  unfold ending? at h
  split at h <;> cases h
  · exact splits_closing _
  · exact splits_variableClosing
  · exact splits_lineStatementClosing

lemma inside_eq_some {prev : Option Char} {k : Lexeme.Kind} {s : Scan} {cs t r : List Char}
    (hmem : (k, s) ∈ inside prev) (h : s cs = some (t, r)) :
    isInner k ∧ t ++ r = cs ∧ (k = .operator → String.ofList t ∈ Scan.operators) := by
  simp only [inside, List.mem_cons, List.not_mem_nil, or_false, Prod.mk.injEq] at hmem
  rcases hmem with ⟨rfl, rfl⟩ | ⟨rfl, rfl⟩ | ⟨rfl, rfl⟩ | ⟨rfl, rfl⟩ | ⟨rfl, rfl⟩ | ⟨rfl, rfl⟩
  · exact ⟨rfl, Scan.splits_run1 _ _ _ _ h, by simp⟩
  · refine ⟨rfl, ?_, by simp⟩
    unfold floatAfter at h
    split at h
    · cases h
    · exact Scan.splits_float _ _ _ h
  · exact ⟨rfl, Scan.splits_integer _ _ _ h, by simp⟩
  · exact ⟨rfl, Scan.splits_run1 _ _ _ _ h, by simp⟩
  · exact ⟨rfl, Scan.splits_string _ _ _ h, by simp⟩
  · obtain ⟨hop, hcs⟩ := Scan.operator_eq_some h
    exact ⟨rfl, hcs, fun _ => hop⟩

variable {st : State} {cs rest : List Char} {position : Nat} {ls : List Lexeme} {mode : Mode}
  {brackets : List Char}

lemma rootStep_cases (hm : st.mode = .root) (h : rootStep d st cs = .step ls mode brackets rest) :
    Produces d st cs ls mode rest := by
  unfold rootStep at h
  split at h
  · next text m hf =>
    cases h
    obtain ⟨prev, r, hmark, rfl⟩ := Scan.findFirst_eq_some hf
    obtain ⟨hv, hk, rfl⟩ := markAt_eq_some hmark
    exact .mark text m hv (Or.inl ⟨hm, hk⟩)
  · split at h
    · cases h
    · cases h
      exact .data cs hm

lemma rawStep_cases (hm : st.mode = .raw) (h : rawStep d st cs = .step ls mode brackets rest) :
    Produces d st cs ls mode rest := by
  unfold rawStep at h
  split at h
  · next text m hf =>
    cases h
    obtain ⟨prev, r, hmark, rfl⟩ := Scan.findFirst_eq_some hf
    obtain ⟨hv, hk, rfl⟩ := endRawTag_eq_some hmark
    have hroot : modeOf m.kind = .root := by rw [hk]; rfl
    exact hroot ▸ .mark text m hv (Or.inr ⟨hm, hk⟩)
  · split at h <;> cases h

lemma commentStep_cases (hm : st.mode = .comment)
    (h : commentStep d st cs = .step ls mode brackets rest) : Produces d st cs ls mode rest := by
  unfold commentStep at h
  split at h
  · next text ending r hf =>
    cases h
    obtain ⟨prev, r', hend, rfl⟩ := Scan.findFirst_eq_some hf
    rw [← splits_closing _ _ _ _ hend]
    exact .comment text ending rest hm
  · split at h <;> cases h

lemma lineCommentStep_cases (hm : st.mode = .lineComment)
    (h : lineCommentStep st cs = .step ls mode brackets rest) : Produces d st cs ls mode rest := by
  unfold lineCommentStep at h
  cases h
  have hcs := List.takeWhile_append_dropWhile (p := (· != '\n')) (l := cs)
  have := Produces.lineComment (d := d) (cs.takeWhile (· != '\n')) (cs.dropWhile (· != '\n')) hm
  rwa [hcs] at this

lemma insideStep_cases (hm : (ending? d st.mode).isSome)
    (h : insideStep d st cs position = .step ls mode brackets rest) :
    Produces d st cs ls mode rest := by
  simp only [insideStep] at h
  split at h
  · next k t r hended =>
    cases h
    split at hended
    · obtain ⟨⟨k', s⟩, hk, hs⟩ := Option.bind_eq_some_iff.1 hended
      obtain ⟨⟨t', r'⟩, hscan, he⟩ := Option.map_eq_some_iff.1 hs
      cases he
      rw [← splits_ending hk _ _ _ hscan]
      exact .ending _ s _ _ hk
    · cases hended
  · split at h
    · next k t r hin =>
      obtain ⟨⟨k', s⟩, hmem, hs⟩ := List.exists_of_findSome?_eq_some hin
      obtain ⟨⟨t', r'⟩, hscan, he⟩ := Option.map_eq_some_iff.1 hs
      cases he
      obtain ⟨hinner, rfl, hop⟩ := inside_eq_some hmem hscan
      split at h
      · cases h
        exact .inner _ _ _ hinner hm hop
      · cases h
    · split at h <;> cases h

/-- **What a step of the lexer produces.** -/
theorem step_cases (h : step d st cs position = .step ls mode brackets rest) :
    Produces d st cs ls mode rest := by
  unfold step at h
  split at h
  · next hm => exact rootStep_cases hm h
  · next hm => exact commentStep_cases hm h
  · next hm => exact rawStep_cases hm h
  · next hm => exact lineCommentStep_cases hm h
  · next hm => exact insideStep_cases (by rw [hm]; rfl) h
  · next hm => exact insideStep_cases (by rw [hm]; rfl) h
  · next hm => exact insideStep_cases (by rw [hm]; rfl) h

end Lexer

end TemplateLint
