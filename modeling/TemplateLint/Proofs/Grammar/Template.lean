import TemplateLint.Proofs.Grammar.Statement

/-!
Whole templates keep regions and tags in balance.

Reading nodes stops at the end of a template or at a tag that is looked for, and a template looks
for none. The end shows only when nothing is ahead, neither terminals nor a fault. So the regions of
a template that is read are in balance with the edges of its tokens. Main statement:
`matches_readFrom`.
-/

namespace TemplateLint.Grammar

/-! ### Ends of streams -/

lemma ofLexeme_ne_finish {lineBreak : List Char} {l : Lexeme} {s : Shape}
    (h : Shape.ofLexeme lineBreak l = .ok (some s)) : s ≠ .finish := by
  rintro rfl
  have hcases := ofLexeme_cases h
  cases hk : l.kind <;> simp only [hk] at hcases
  case operator =>
    obtain ⟨o, -, ho⟩ := Option.map_eq_some_iff.1 hcases.symm
    cases ho
  all_goals simp at hcases

namespace Stream

lemma ne_finish_of_mem_terminals {lineBreak : List Char} {place : Nat} {ls : List (Nat × Lexeme)}
    {t : Terminal} (h : t ∈ (terminals lineBreak place ls).1) : t.shape ≠ .finish := by
  induction ls generalizing place with
  | nil => cases h
  | cons l ls ih =>
    simp only [terminals] at h
    split at h
    · cases h
    · exact ih h
    · next s hs =>
      rcases List.mem_cons.1 h with rfl | h
      · exact ofLexeme_ne_finish hs
      · exact ih h

/-- The end of a template shows only when nothing is ahead, neither terminals nor a fault. -/
structure Finishes (st : Stream) : Prop where
  ahead : ∀ t ∈ st.ahead, t.shape ≠ .finish
  current : st.current.shape = .finish → st.ahead = [] ∧ st.fault = none

variable {st st' : Stream}

lemma finishes_of_advance (ha : ∀ t ∈ st.ahead, t.shape ≠ .finish) (h : st.advance = .ok st') :
    Finishes st' := by
  unfold advance at h
  split at h
  · next t ts hts =>
    cases h
    rw [hts] at ha
    exact ⟨fun t' ht' => ha t' (.tail _ ht'), fun hs => absurd hs (ha t (.head _))⟩
  · next hts =>
    split at h
    · cases h
    · next hf =>
      cases h
      exact ⟨ha, fun _ => ⟨hts, hf⟩⟩

lemma Finishes.leads (hst : Finishes st) (h : Leads st st') : Finishes st' := by
  induction h with
  | refl => exact hst
  | tail _ hadvance ih => exact finishes_of_advance ih.ahead hadvance

lemma fault_of_advance (h : st.advance = .ok st') : st'.fault = st.fault := by
  unfold advance at h
  split at h
  · cases h
    rfl
  · split at h
    · cases h
    · cases h
      rfl

lemma fault_of_leads (h : Leads st st') : st'.fault = st.fault := by
  induction h with
  | refl => rfl
  | tail _ hadvance ih => rw [fault_of_advance hadvance, ih]

/-- No edge of a tag is behind the end of a template. -/
lemma Finishes.edges_eq_nil (hst : Finishes st) (h : st.current.shape = .finish) :
    st.edges = [] := by
  rw [edges, (hst.current h).1, Grammar.edges, h]
  rfl

lemma edges_of_advance_start {ts : List Terminal} {fault : Option Fault} {bound : Nat}
    (h : advance ⟨⟨1, .finish, 0⟩, ts, fault, bound⟩ = .ok st) : st.edges = Grammar.edges ts := by
  unfold advance at h
  split at h
  · next t ts' hts =>
    cases h
    rw [edges, show ts = t :: ts' from hts]
  · next hts =>
    split at h
    · cases h
    · cases h
      rw [edges, show ts = [] from hts]
      rfl

/-- A start is an advance to the first of the terminals. If there is no fault, then these are the
terminals of all lexemes, and the template has tokens. -/
lemma advance_of_start {d : Dialect} {source : String} (h : start d source = .ok st) :
    ∃ ts fault bound, advance ⟨⟨1, .finish, 0⟩, ts, fault, bound⟩ = .ok st ∧
      (∀ t ∈ ts, t.shape ≠ .finish) ∧ (st.fault = none →
        terminals d.lineBreak.toList 0 (Lexeme.place 1 (Lexer.lexemesOf d source)) = (ts, none) ∧
        tokenize d source =
          .ok (Lexeme.tokens (Lexeme.place 1 (Lexer.lexemesOf d source)))) := by
  have hlexemes : (Lexer.lex d source).lexemes =
    Lexeme.place 1 (Lexer.lexemesOf d source) := rfl
  rcases ht : terminals d.lineBreak.toList 0 (Lexer.lex d source).lexemes with ⟨ts, misread⟩
  simp only [start, ht] at h
  have hfinish : ∀ t ∈ ts, t.shape ≠ .finish := fun t hmem =>
    ne_finish_of_mem_terminals (by rw [ht]; exact hmem)
  refine ⟨ts, _, _, h, hfinish, fun hfault => ?_⟩
  rw [fault_of_advance h] at hfault
  cases misread with
  | some f => cases hfault
  | none =>
    have hlex : (Lexer.lex d source).fault = none := by simpa using hfault
    exact ⟨ht, by simp [tokenize, hlex, hlexemes]⟩

lemma edges_start {d : Dialect} {source : String} (h : start d source = .ok st) :
    Finishes st ∧ (st.fault = none → ∃ tokens, tokenize d source = .ok tokens ∧
      st.edges = Block.edges 0 tokens) := by
  obtain ⟨ts, fault, bound, hadvance, hfinish, hlexed⟩ := advance_of_start h
  refine ⟨finishes_of_advance hfinish hadvance, fun hfault => ?_⟩
  obtain ⟨ht, htokens⟩ := hlexed hfault
  refine ⟨_, htokens, ?_⟩
  rw [edges_of_advance_start hadvance]
  exact Grammar.edges_eq (Lexer.shaped_lexemesOf d source) ht

end Stream

namespace Reading

open Phrasing

/-! ### Nodes -/

lemma exists_of_isWord {words : List String} {s : Shape} (h : s.isWord words) :
    ∃ w ∈ words, s = .name w := by
  cases s with
  | name w => exact ⟨w, by simpa [Shape.isWord] using h, rfl⟩
  | _ => cases h

/-- **Nodes keep regions and tags in balance.** The induction is on the rounds. -/
theorem readsNodes (es : List Extension) (rounds : Nat) :
    ∀ pieces search, ReadsNodes search (nodes es rounds pieces search) := by
  induction rounds with
  | zero =>
    intro pieces search s r s' h
    obtain ⟨st, h₁, -⟩ := run_phrase_eq_ok h
    cases h₁
  | succ rounds ih =>
    intro pieces search s r s' h
    obtain ⟨t, s₀, h₀, h⟩ := run_bind_eq_ok h
    cases h₀
    dsimp only at h
    split at h
    · next text hs =>
      obtain ⟨u, st, hskip, h⟩ := run_phrase_bind_eq_ok h
      have hwithin := Stream.within_advance (run_skip_eq_ok hskip) (by rw [hs]; rfl)
      obtain ⟨rs, edges, hending, hgoes⟩ := ih _ _ _ _ _ h
      exact ⟨rs, edges, hending, (goes_of_within hwithin).trans hgoes⟩
    · next hs =>
      obtain ⟨u, st₁, hskip, h⟩ := run_phrase_bind_eq_ok h
      obtain ⟨e, st₂, htuple, h⟩ := run_phrase_bind_eq_ok h
      obtain ⟨u', st₃, hend, h⟩ := run_phrase_bind_eq_ok h
      have hwithin₁ := Stream.within_advance (run_skip_eq_ok hskip) (by rw [hs]; rfl)
      have hwithin₂ := inside_tuple (P := Anywhere) _ _ _ _ trivial htuple
      have hexpect : Inside Anywhere (expect .variableEnd) := inside_expect (by simp)
      have hwithin₃ := hexpect _ _ _ trivial hend
      obtain ⟨rs, edges, hending, hgoes⟩ := ih _ _ _ _ _ h
      exact ⟨rs, edges, hending,
        (goes_of_within (hwithin₁.trans (hwithin₂.trans hwithin₃))).trans hgoes⟩
    · next hs =>
      obtain ⟨u, st, hskip, h⟩ := run_phrase_bind_eq_ok h
      obtain ⟨shape, s₁, h₁, h⟩ := run_bind_eq_ok h
      cases h₁
      have hadvance := run_skip_eq_ok hskip
      have hedges : s.stream.edges = .opening s.stream.current.place st.current.shape.name? ::
        st.edges := Stream.edges_of_blockBegin hadvance hs
      split at h
      · next hword =>
        cases h
        obtain ⟨w, hw, hname⟩ := exists_of_isWord hword
        refine ⟨[], [.opening s.stream.current.place (some w)], .tag w hw hname, ?_⟩
        rw [hedges, show st.current.shape.name? = some w from congrArg Shape.name? hname]
        exact goes_of_advance hadvance _
      · obtain ⟨ns, s₂, h₂, h⟩ := run_bind_eq_ok h
        obtain ⟨u', s₃, h₃, h⟩ := run_bind_eq_ok h
        obtain ⟨⟨rest, stop⟩, s₄, h₄, h⟩ := run_bind_eq_ok h
        cases h
        obtain ⟨rs, hgoes⟩ := goes_of_statement (fun search => ih [] search) h₂
          s.stream.current.place
        obtain ⟨hgoes₃, hedges₃⟩ := run_expect_blockEnd h₃
        obtain ⟨rs', edges, hending, hgoes₄⟩ := ih _ _ _ _ _ h₄
        refine ⟨rs ++ rs', edges, hending, ?_⟩
        rw [hedges]
        rw [hedges₃] at hgoes
        exact (goes_of_advance hadvance _).trans
          (hgoes.trans (.plain rfl (hgoes₃.trans hgoes₄)))
    · next hs =>
      cases h
      exact ⟨[], [], .finish hs, .refl _ _⟩
    · obtain ⟨st, h₁, -⟩ := run_phrase_eq_ok h
      cases h₁

/-- **A template keeps regions and tags in balance**, and its end is reached. -/
theorem goes_of_template {es : List Extension} {s s' : Progress} {n : Node}
    (h : (template es).run s = (.ok n, s')) : ∃ rs,
      Goes s s.stream.edges rs s' s'.stream.edges ∧ s'.stream.current.shape = .finish := by
  obtain ⟨progress, s₀, h₀, h⟩ := run_bind_eq_ok h
  cases h₀
  obtain ⟨r, s₁, h₁, h⟩ := run_bind_eq_ok h
  cases h
  obtain ⟨rs, edges, hending, hgoes⟩ := readsNodes es _ _ _ _ _ _ h₁
  cases hending with
  | finish hfinish => exact ⟨rs, hgoes, hfinish⟩
  | tag w hw => cases hw

end Reading

/-! ### Regions and tokens -/

/-- A template that is read has been gone through up to its end, and there is no fault in it. -/
lemma run_of_readFrom {d : Dialect} {es : List Extension} {source : String} {st : Stream}
    {n : Node} (hst : Stream.start d source = .ok st) (h : (readFrom es st).tree = .ok n) :
    ∃ rs s, (Reading.template es).run ⟨st, [], 0⟩ = (.ok n, s) ∧
      Reading.Goes ⟨st, [], 0⟩ st.edges rs s [] ∧
      st.fault = none := by
  rcases hrun : (Reading.template es).run ⟨st, [], 0⟩ with ⟨tree, s⟩
  simp only [readFrom, hrun] at h
  rw [h] at hrun
  obtain ⟨rs, hgoes, hfinish⟩ := Reading.goes_of_template hrun
  have hends : s.stream.Finishes := (Stream.edges_start hst).1.leads hgoes.leads
  rw [hends.edges_eq_nil hfinish] at hgoes
  refine ⟨rs, s, by rw [h], hgoes, ?_⟩
  rw [← Stream.fault_of_leads hgoes.leads]
  exact (hends.current hfinish).2

/-- A template that is read has tokens, and its regions are in balance with their edges. -/
theorem balanced_readFrom {d : Dialect} {es : List Extension} {source : String} {st : Stream}
    {n : Node} (hst : Stream.start d source = .ok st) (h : (readFrom es st).tree = .ok n) :
    ∃ tokens, tokenize d source = .ok tokens ∧ st.edges = Block.edges 0 tokens ∧
      Balanced 0 (Block.edges 0 tokens) (readFrom es st).regions (readFrom es st).opened [] := by
  obtain ⟨rs, s, hrun, hgoes, hfault⟩ := run_of_readFrom hst h
  obtain ⟨tokens, htokenize, hedges⟩ := (Stream.edges_start hst).2 hfault
  have hbalanced := hgoes.balanced
  rw [hedges] at hbalanced
  refine ⟨tokens, htokenize, hedges, ?_⟩
  simp only [readFrom, hrun]
  rw [hgoes.regions]
  exact hbalanced

/-- **The regions of a template that is read are the blocks of its tokens**, and as many lint tags
are opened as there are. -/
theorem matches_readFrom {d : Dialect} {es : List Extension} {source : String} {st : Stream}
    {n : Node} (hst : Stream.start d source = .ok st) (h : (readFrom es st).tree = .ok n) :
    ∃ tokens, tokenize d source = .ok tokens ∧ Matches (readFrom es st).regions tokens ∧
      (readFrom es st).opened = Block.openings "lint" tokens := by
  obtain ⟨tokens, htokens, -, hbalanced⟩ := balanced_readFrom hst h
  exact ⟨tokens, htokens, hbalanced.matches, hbalanced.opened_eq⟩

end TemplateLint.Grammar
