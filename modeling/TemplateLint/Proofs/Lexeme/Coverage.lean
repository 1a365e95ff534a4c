import TemplateLint.Proofs.Lexeme.Step

/-!
The lexemes of a template are the whole template.

Nothing gets lost between lexemes, and what is dropped next to a tag is a lexeme too. Only blanks
are dropped, and only where a minus sign or the dialect asks for it. Main statements: `textOf_lex`,
`excused_run`.
-/

namespace TemplateLint

namespace Lexeme

@[simp] lemma textOf_nil : textOf [] = [] := rfl

@[simp] lemma textOf_cons (l : Lexeme) (ls : List Lexeme) :
    textOf (l :: ls) = l.text ++ textOf ls := rfl

@[simp] lemma textOf_append (ls ls' : List Lexeme) : textOf (ls ++ ls') = textOf ls ++ textOf ls' :=
  List.flatMap_append

@[simp] lemma textOf_ofText (k : Kind) (cs : List Char) : textOf (ofText k cs) = cs := by
  unfold ofText
  split
  · next h =>
    have : cs = [] := by simp_all
    simp [this]
  · simp

lemma mem_ofText {l : Lexeme} {k : Kind} {cs : List Char} (h : l ∈ ofText k cs) : l = ⟨k, cs⟩ := by
  unfold ofText at h
  split at h
  · cases h
  · exact List.mem_singleton.1 h

/-- A kind whose lexemes are never left out has one lexeme for every text. -/
lemma ofText_eq {k : Kind} (h : k.isOptional = false) (cs : List Char) :
    ofText k cs = [⟨k, cs⟩] := by
  simp [ofText, h]

end Lexeme

namespace Lexer

open Lexeme (textOf)

variable {d : Dialect} {st : State} {cs rest : List Char} {ls : List Lexeme} {mode : Mode}

/-! ### What stands before a mark -/

lemma lastLine_append (cs : List Char) :
    cs.take (cs.length - (lastLine cs).length) ++ lastLine cs = cs := by
  have h : lastLine cs <:+ cs.reverse.reverse := (List.takeWhile_prefix _).reverse
  rw [List.reverse_reverse] at h
  exact List.suffix_iff_eq_append.1 h

/-- The text before a mark is cut in two. The second part is blank, and there is none without a
minus sign or a dialect that drops blanks. -/
lemma splitBefore_eq (lineStart : Bool) (k : Lexeme.Kind) (c : Control) (text : List Char) :
    let p := splitBefore d lineStart k c text
    p.1 ++ p.2 = text ∧ (∀ b ∈ p.2, Text.isBlank b) ∧
      (p.2 ≠ [] → c = .strip ∨ d.lstripBlocks = true) := by
  cases c with
  | strip =>
    obtain ⟨bs, hbs, hblank⟩ := Text.trimEnd_append_blanks text
    have hdrop : (Text.trimEnd text ++ bs).drop (Text.trimEnd text).length = bs :=
      List.drop_left ..
    rw [hbs] at hdrop
    simp only [splitBefore, hdrop]
    exact ⟨hbs, hblank, fun _ => Or.inl trivial⟩
  | keep => simp [splitBefore]
  | none =>
    simp only [splitBefore]
    split
    · next h =>
      simp only [Bool.and_eq_true] at h
      exact ⟨lastLine_append text, by simpa using h.2, fun _ => Or.inr h.1.1.1⟩
    · simp

lemma textOf_beforeAndMark (text : List Char) (m : Mark) :
    textOf (beforeAndMark d st text m) = text ++ m.text := by
  have h := (splitBefore_eq (d := d) st.lineStart m.kind m.control text).1
  simp only [beforeAndMark, Lexeme.textOf_append, Lexeme.textOf_ofText]
  rw [h]

/-! ### Runs -/

lemma Produces.textOf_append (h : Produces d st cs ls mode rest) : textOf ls ++ rest = cs := by
  cases h with
  | mark text m => rw [textOf_beforeAndMark, List.append_assoc]
  | data => simp
  | comment text ending => simp
  | lineComment text => simp
  | ending k s text => simp
  | inner k text => simp

/-- The lexer only stops without a flaw at the end of the text. -/
lemma eq_nil_of_step_done {position : Nat} (h : step d st cs position = .done) : cs = [] := by
  unfold step at h
  split at h
  · unfold rootStep at h
    split at h
    · cases h
    · split at h
      · rfl
      · cases h
  · unfold commentStep at h
    split at h
    · cases h
    · split at h
      · next he => simpa using he
      · cases h
  · unfold rawStep at h
    split at h
    · cases h
    · split at h
      · next he => simpa using he
      · cases h
  · cases h
  all_goals
    simp only [insideStep] at h
    split at h
    · cases h
    · split at h
      · split at h <;> cases h
      · split at h
        · rfl
        · cases h

lemma textOf_run {rounds position : Nat} (h : run d rounds st position cs = (ls, none)) :
    textOf ls = cs := by
  induction rounds generalizing st position cs ls with
  | zero => cases h
  | succ rounds ih =>
    unfold run at h
    split at h
    · next hs =>
      cases h
      exact (eq_nil_of_step_done hs).symm
    · cases h
    · next ls' mode brackets rest hs =>
      rcases hr : run d rounds (st.after mode brackets (textOf ls'))
        (position + (textOf ls').length) rest with ⟨more, f⟩
      simp only [hr] at h
      cases h
      rw [Lexeme.textOf_append, ih hr, (step_cases hs).textOf_append]

/-- What holds of no lexemes and is kept by every step holds of every run. -/
lemma run_induction {P : Mode → List Lexeme → Prop} (hnil : ∀ mode, P mode [])
    (hstep : ∀ {st cs ls mode rest more}, Produces d st cs ls mode rest → P mode more →
      P st.mode (ls ++ more)) (rounds : Nat) (st : State) (position : Nat) (cs : List Char) :
    P st.mode (run d rounds st position cs).1 := by
  induction rounds generalizing st position cs with
  | zero => exact hnil _
  | succ rounds ih =>
    unfold run
    split
    · exact hnil _
    · exact hnil _
    · next ls mode brackets rest hs =>
      exact hstep (step_cases hs) (ih (st.after mode brackets (textOf ls)) _ rest)

/-- Only blanks are dropped, and for a reason. -/
def Excused (d : Dialect) (ls : List Lexeme) : Prop :=
  ∀ l ∈ ls, l.kind = .stripped → (∀ c ∈ l.text, Text.isBlank c) ∧
    (d.lstripBlocks = true ∨ ∃ m ∈ ls, d.Dashed m.kind m.text)

lemma Excused.append {ls' : List Lexeme} (h : Excused d ls) (h' : Excused d ls') :
    Excused d (ls ++ ls') := by
  intro l hl hk
  rcases List.mem_append.1 hl with hl | hl
  · refine ⟨(h l hl hk).1, (h l hl hk).2.imp_right ?_⟩
    rintro ⟨m, hm, hd⟩
    exact ⟨m, List.mem_append_left _ hm, hd⟩
  · refine ⟨(h' l hl hk).1, (h' l hl hk).2.imp_right ?_⟩
    rintro ⟨m, hm, hd⟩
    exact ⟨m, List.mem_append_right _ hm, hd⟩

lemma Mark.Valid.isOptional {m : Mark} (h : m.Valid d) :
    m.kind.isOptional = false ∧ m.kind ≠ .stripped := by
  have := h.kind
  cases hk : m.kind <;> simp_all [Dialect.mark?, Lexeme.Kind.isOptional]

lemma excused_beforeAndMark (text : List Char) {m : Mark} (hv : m.Valid d) :
    Excused d (beforeAndMark d st text m) := by
  intro l hl hk
  obtain ⟨-, hblank, hwhy⟩ := splitBefore_eq (d := d) st.lineStart m.kind m.control text
  obtain ⟨hopt, hkind⟩ := hv.isOptional
  simp only [beforeAndMark, List.mem_append] at hl
  rcases hl with (hl | hl) | hl
  · rw [Lexeme.mem_ofText hl] at hk
    cases hk
  · have hne : (splitBefore d st.lineStart m.kind m.control text).2 ≠ [] := by
      intro he
      rw [he] at hl
      cases hl
    rw [Lexeme.mem_ofText hl]
    refine ⟨hblank, (hwhy hne).symm.imp_right fun hc => ⟨⟨m.kind, m.text⟩, ?_, hv.strip hc⟩⟩
    simp [beforeAndMark, Lexeme.ofText_eq hopt]
  · rw [Lexeme.mem_ofText hl] at hk
    exact absurd hk hkind

lemma Produces.excused (h : Produces d st cs ls mode rest) : Excused d ls := by
  have hfree : ∀ {ls : List Lexeme}, (∀ l ∈ ls, l.kind ≠ .stripped) → Excused d ls :=
    fun h l hl hk => absurd hk (h l hl)
  cases h with
  | mark text m hv => exact excused_beforeAndMark text hv
  | data => exact hfree (by simp)
  | comment text ending =>
    refine hfree fun l hl => ?_
    rcases List.mem_append.1 hl with hl | hl
    · rw [Lexeme.mem_ofText hl]
      simp
    · rw [List.mem_singleton.1 hl]
      simp
  | lineComment text =>
    refine hfree fun l hl => ?_
    rcases List.mem_append.1 hl with hl | hl
    · rw [Lexeme.mem_ofText hl]
      simp
    · rw [List.mem_singleton.1 hl]
      simp
  | ending k s text rest hk =>
    refine hfree fun l hl => ?_
    rw [List.mem_singleton.1 hl]
    unfold ending? at hk
    split at hk <;> cases hk <;> simp
  | inner k text rest hk =>
    refine hfree fun l hl => ?_
    rw [List.mem_singleton.1 hl]
    rintro rfl
    cases hk

/-! ### Templates -/

/-- The lexemes of a template up to the first flaw. -/
def lexemesOf (d : Dialect) (source : String) : List Lexeme :=
  (run d (2 * (normalise d source).length + 2) .start 0 (normalise d source)).1

/-- The lexemes of a template without a flaw, joined, are the template. -/
theorem textOf_lex {source : String} (h : (lex d source).fault = none) :
    textOf (lexemesOf d source) = normalise d source := by
  unfold lexemesOf
  rcases hr : run d (2 * (normalise d source).length + 2) .start 0 (normalise d source) with
    ⟨ls, _ | f⟩
  · exact textOf_run hr
  · simp [lex, lexChars, hr] at h

/-- The tokens of a template are its lexemes with their lines, without those that are dropped. -/
lemma tokenize_eq_ok {source : String} {ts : List Token} (h : tokenize d source = .ok ts) :
    textOf (lexemesOf d source) = normalise d source ∧
      ts = Lexeme.tokens (Lexeme.place 1 (lexemesOf d source)) := by
  simp only [tokenize] at h
  split at h
  · next hf =>
    cases h
    exact ⟨textOf_lex hf, rfl⟩
  · cases h

/-- In every template only blanks are dropped, and for a reason. -/
theorem excused_run (rounds : Nat) (st : State) (position : Nat) (cs : List Char) :
    Excused d (run d rounds st position cs).1 := by
  refine run_induction (P := fun _ ls => Excused d ls) ?_ ?_ rounds st position cs
  · intro _ l hl
    cases hl
  · intro st cs ls mode rest more hp hmore
    exact hp.excused.append hmore

end Lexer

end TemplateLint
