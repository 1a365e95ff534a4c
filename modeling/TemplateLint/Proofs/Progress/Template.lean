import Mathlib.Data.List.Chain
import TemplateLint.Proofs.Progress.Statement

/-!
Why a template cannot be read: its lexemes are unsound, or its phrases are. The reader neither loses
its way nor comes to a bound of its own. A fault that nobody expects of a template comes from a
number with a point or an exponent that is written with foreign digits. Main statements:
`explains_of_readFrom` and `foreignNumber_of_readFrom`.
-/

namespace TemplateLint.Grammar

/-! ### Streams of templates -/

/-- By its kind, whether a lexeme stands for a terminal where a node begins, and whether text goes
on behind it. -/
lemma beginsNode_of_ofLexeme {lineBreak : List Char} {l : Lexeme} {s : Shape}
    (h : Shape.ofLexeme lineBreak l = .ok (some s)) :
    (l.kind.opens ∨ l.kind.isOuter → s.beginsNode) ∧
      (Lexer.isInner l.kind ∨ l.kind.opens → s.endsTag = false) := by
  have hcases := ofLexeme_cases h
  cases hk : l.kind <;> simp only [hk] at hcases
  case operator =>
    obtain ⟨o, -, rfl⟩ := Option.map_eq_some_iff.1 hcases.symm
    exact ⟨fun hk => absurd hk (by decide), fun _ => rfl⟩
  case name =>
    cases hcases
    exact ⟨fun hk => absurd hk (by decide), fun _ => rfl⟩
  case data =>
    obtain ⟨t, ht⟩ := hcases
    cases ht
    exact ⟨fun _ => rfl, fun hk => absurd hk (by decide)⟩
  case string | integer | float =>
    obtain ⟨t, ht⟩ := hcases
    cases ht
    exact ⟨fun hk => absurd hk (by decide), fun _ => rfl⟩
  case blockBegin | lineStatementBegin | variableBegin =>
    cases hcases
    exact ⟨fun _ => rfl, fun _ => rfl⟩
  case blockEnd | lineStatementEnd | variableEnd =>
    cases hcases
    exact ⟨fun hk => absurd hk (by decide), fun hk => absurd hk (by decide)⟩
  all_goals cases hcases

namespace Stream

variable {lineBreak : List Char} {line place : Nat} {l : Lexeme} {ls : List (Nat × Lexeme)}

lemma fst_terminals_cons : (terminals lineBreak place ((line, l) :: ls)).1 =
    match Shape.ofLexeme lineBreak l with
    | .error _ => []
    | .ok s => (s.map fun s => (⟨line, s, place⟩ : Terminal)).toList ++
        (terminals lineBreak (if l.kind = .stripped then place else place + 1) ls).1 := by
  simp only [terminals]
  cases Shape.ofLexeme lineBreak l with
  | error m => rfl
  | ok s => cases s <;> rfl

lemma isChain_cons {t : Terminal} {ts : List Terminal} (hts : ts.IsChain Terminal.Follows)
    (h : t.shape.endsTag → ∀ t' ∈ ts.head?, t'.shape.beginsNode) :
    (t :: ts).IsChain Terminal.Follows :=
  List.isChain_cons.2 ⟨fun t' ht' he => h he t' ht', hts⟩

/-- **The terminals of a template are in order**, and the first one outside of tags begins a
node. -/
theorem isChain_terminals (lineBreak : List Char) (line place : Nat) {lexemes : List Lexeme}
    {inside : Bool} (hs : Lexeme.Shaped inside lexemes) :
    (terminals lineBreak place (Lexeme.place line lexemes)).1.IsChain Terminal.Follows ∧
      (inside = false → ∀ t ∈ (terminals lineBreak place (Lexeme.place line lexemes)).1.head?,
        t.shape.beginsNode) := by
  induction hs generalizing line place with
  | nil => exact ⟨.nil, by simp [Lexeme.place, terminals]⟩
  | @inner l ls hk _ _ ih =>
    rw [Lexeme.place, fst_terminals_cons]
    cases hl : Shape.ofLexeme lineBreak l with
    | error m => exact ⟨.nil, by simp⟩
    | ok s =>
      refine ⟨?_, by simp⟩
      cases s with
      | none => exact (ih _ _).1
      | some s =>
        have hends := (beginsNode_of_ofLexeme hl).2 (.inl hk)
        exact isChain_cons (ih _ _).1 fun he => by rw [hends] at he; cases he
  | @ending l ls hk _ ih =>
    rw [Lexeme.place, fst_terminals_cons]
    cases hl : Shape.ofLexeme lineBreak l with
    | error m => exact ⟨.nil, by simp⟩
    | ok s =>
      refine ⟨?_, by simp⟩
      cases s with
      | none => exact (ih _ _).1
      | some s => exact isChain_cons (ih _ _).1 fun _ => (ih _ _).2 rfl
  | @opening l ls hk _ ih =>
    rw [Lexeme.place, fst_terminals_cons]
    cases hl : Shape.ofLexeme lineBreak l with
    | error m => exact ⟨.nil, by simp⟩
    | ok s =>
      cases s with
      | none =>
        -- what opens a tag stands for a terminal
        have hcases := ofLexeme_cases hl
        cases hkind : l.kind <;> rw [hkind] at hk hcases <;> first | cases hcases; done | cases hk
      | some s =>
        have hshape := beginsNode_of_ofLexeme hl
        refine ⟨isChain_cons (ih _ _).1 fun he => ?_, fun _ t ht => ?_⟩
        · rw [hshape.2 (.inr hk)] at he
          cases he
        · cases ht
          exact hshape.1 (.inl hk)
  | @outer l ls hk _ ih =>
    rw [Lexeme.place, fst_terminals_cons]
    cases hl : Shape.ofLexeme lineBreak l with
    | error m => exact ⟨.nil, by simp⟩
    | ok s =>
      cases s with
      | none => exact ih _ _
      | some s =>
        refine ⟨isChain_cons (ih _ _).1 fun _ => (ih _ _).2 rfl, fun _ t ht => ?_⟩
        cases ht
        exact (beginsNode_of_ofLexeme hl).1 (.inr hk)

/-- The fault that the reader meets behind the last terminal of a template. -/
def faultBehind (d : Dialect) (source : String) : Option Fault :=
  (terminals d.lineBreak.toList 0 (Lexer.lex d source).lexemes).2 <|>
    (Lexer.lex d source).fault.map fun f => ⟨.lexical f.flaw, f.line⟩

/-- A stream from which a template can be read. -/
structure Ready (st : Stream) : Prop where
  orderly : st.Orderly
  atNode : Reading.AtNode st
  bounded : st.left < st.bound

/-- **A template starts with a stream from which it can be read**, or with its fault. -/
theorem ready_of_start {d : Dialect} {source : String} {st : Stream}
    (h : start d source = .ok st) : st.Ready ∧ st.fault = faultBehind d source := by
  have hlexemes : (Lexer.lex d source).lexemes =
    Lexeme.place 1 (Lexer.lexemesOf d source) := rfl
  obtain ⟨hchain, hhead⟩ := isChain_terminals d.lineBreak.toList 1 0
    (Lexer.shaped_lexemesOf d source)
  rw [← hlexemes] at hchain hhead
  simp only [start] at h
  rcases hts : terminals d.lineBreak.toList 0 (Lexer.lex d source).lexemes with ⟨ts, misread⟩
  rw [hts] at h hchain hhead
  have hfault := fault_of_advance h
  have hbound := bound_of_advance h
  have hleft := left_of_advance h
  rw [left, if_pos rfl] at hleft
  have hcount : (⟨1, .finish, 0⟩ :: ts : List Terminal).countP (fun t => t.shape != .finish) ≤
      ts.length := by
    rw [List.countP_cons_of_neg (by simp)]
    exact List.countP_le_length
  have horderly : Orderly ⟨⟨1, .finish, 0⟩, ts, misread <|>
      (Lexer.lex d source).fault.map fun f => ⟨.lexical f.flaw, f.line⟩, ts.length + 2⟩ :=
    isChain_cons hchain fun he => by cases he
  refine ⟨⟨(horderly.advance h).1, ?_, ?_⟩, by rw [hfault, faultBehind, hts]⟩
  · -- the first terminal is the first one of the lexemes, or the end
    unfold advance at h
    split at h
    · next t ts' ha =>
      cases h
      exact hhead rfl t (by rw [show ts = t :: ts' from ha]; rfl)
    · split at h
      · cases h
      · cases h
        rfl
  · rw [hbound]
    dsimp only at hleft ⊢
    omega

lemma faultBehind_of_start {d : Dialect} {source : String} {f : Fault}
    (h : start d source = .error f) : faultBehind d source = some f := by
  have hfault := fault_of_advance_eq_error h
  simpa only [faultBehind] using hfault

end Stream

/-! ### Faults -/

/-- **A template that cannot be read has unsound lexemes or unsound phrases.** -/
theorem explains_of_readFrom {d : Dialect} {source : String} {st : Stream} {es : List Extension}
    {opened : Nat} {f : Fault} (hst : Stream.start d source = .ok st)
    (h : (readFrom es st opened).tree = .error f) :
    Stream.faultBehind d source = some f ∨ f.cause.isPhrasal := by
  obtain ⟨hready, hfault⟩ := Stream.ready_of_start hst
  rcases hrun : (Reading.template es).run ⟨st, [], opened⟩ with ⟨tree, s⟩
  simp only [readFrom, hrun] at h
  rw [h] at hrun
  rw [← hfault]
  exact (Reading.progresses_template es (st.left + 1) ⟨st, [], opened⟩ hready.atNode
    hready.orderly (Nat.lt_succ_self _) hready.bounded).1 f s hrun

/-- A number with a point or an exponent that is written with foreign digits. -/
def isForeignNumber (l : Lexeme) : Bool := l.kind == .float && l.text.any isForeign

lemma isForeign_of_foreignFault? {cs : List Char} {m : Misread} (h : foreignFault? cs = some m) :
    cs.any isForeign := by
  unfold foreignFault? at h
  split at h
  · cases h
  · next hany => simpa using hany

lemma isForeignNumber_of_ofLexeme {lineBreak : List Char} {l : Lexeme} {m : Misread}
    (h : Shape.ofLexeme lineBreak l = .error m) (hm : (Cause.misread m).isExpected = false) :
    isForeignNumber l ∧ foreignFault? (withoutLowLines l.text) = some m := by
  unfold Shape.ofLexeme at h
  split at h
  case h_5 hk =>
    dsimp only at h
    split at h
    · next m' hf =>
      cases h
      have hany := isForeign_of_foreignFault? hf
      refine ⟨?_, hf⟩
      simp only [isForeignNumber, hk, beq_self_eq_true, Bool.true_and]
      rw [List.any_eq_true] at hany ⊢
      obtain ⟨c, hc, hforeign⟩ := hany
      exact ⟨c, (List.mem_filter.1 hc).1, hforeign⟩
    · cases h
  case h_4 hk =>
    -- an integer that is misread is too long
    cases hn : integerValue (withoutLowLines l.text) with
    | ok n =>
      rw [hn] at h
      cases h
    | error m' =>
      rw [hn] at h
      cases h
      obtain ⟨n, rfl⟩ : ∃ n, m = .longInteger n := by
        unfold integerValue integerValue.decimalValue at hn
        grind
      cases hm
  all_goals first
    | (split at h <;> cases h <;> cases hm)
    | cases h

lemma misread_of_terminals {lineBreak : List Char} {place : Nat} {ls : List (Nat × Lexeme)}
    {f : Fault} (h : (Stream.terminals lineBreak place ls).2 = some f) :
    ∃ x ∈ ls, ∃ m, Shape.ofLexeme lineBreak x.2 = .error m ∧ f = ⟨.misread m, x.1⟩ := by
  induction ls generalizing place with
  | nil => cases h
  | cons x ls ih =>
    obtain ⟨line, l⟩ := x
    simp only [Stream.terminals] at h
    split at h
    · next m hm =>
      cases h
      exact ⟨(line, l), List.mem_cons_self, m, hm, rfl⟩
    · obtain ⟨x, hx, hm⟩ := ih h
      exact ⟨x, List.mem_cons_of_mem _ hx, hm⟩
    · obtain ⟨x, hx, hm⟩ := ih h
      exact ⟨x, List.mem_cons_of_mem _ hx, hm⟩

lemma isExpected_of_isPhrasal {c : Cause} (h : c.isPhrasal) : c.isExpected ∧ c ≠ .exhausted := by
  cases c <;> first | (cases h; done) | exact ⟨rfl, by simp⟩

/-- A fault of a template that belongs to one of its numbers, which has foreign digits. -/
def IsForeignFault (d : Dialect) (source : String) (f : Fault) : Prop :=
  ∃ x ∈ (Lexer.lex d source).lexemes, isForeignNumber x.2 ∧ ∃ m,
    foreignFault? (withoutLowLines x.2.text) = some m ∧ f = ⟨.misread m, x.1⟩

/-- What stands behind the terminals of a template is expected, or it is a foreign number. -/
lemma isExpected_of_faultBehind {d : Dialect} {source : String} {f : Fault}
    (h : Stream.faultBehind d source = some f) :
    (f.cause.isExpected ∧ f.cause ≠ .exhausted) ∨ IsForeignFault d source f := by
  unfold Stream.faultBehind at h
  cases hmis : (Stream.terminals d.lineBreak.toList 0 (Lexer.lex d source).lexemes).2 with
  | some f' =>
    rw [hmis] at h
    cases h
    obtain ⟨x, hx, m, hm, rfl⟩ := misread_of_terminals hmis
    cases hexpected : (Cause.misread m).isExpected with
    | true => exact .inl ⟨rfl, by simp⟩
    | false =>
      obtain ⟨hnumber, hforeign⟩ := isForeignNumber_of_ofLexeme hm hexpected
      exact .inr ⟨x, hx, hnumber, m, hforeign, rfl⟩
  | none =>
    rw [hmis] at h
    obtain ⟨flaw, -, rfl⟩ := Option.map_eq_some_iff.1 h
    exact .inl ⟨rfl, by simp⟩

/-- **Why a template is not read is expected of templates, or it is a foreign number.** -/
theorem isExpected_of_readFrom {d : Dialect} {source : String} {st : Stream} {es : List Extension}
    {opened : Nat} {f : Fault} (hst : Stream.start d source = .ok st)
    (h : (readFrom es st opened).tree = .error f) :
    (f.cause.isExpected ∧ f.cause ≠ .exhausted) ∨ IsForeignFault d source f := by
  rcases explains_of_readFrom hst h with hfault | hphrasal
  · exact isExpected_of_faultBehind hfault
  · exact .inl (isExpected_of_isPhrasal hphrasal)

end TemplateLint.Grammar
