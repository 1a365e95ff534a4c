import Mathlib
import TemplateLint.Proofs.Grammar.Template
import TemplateLint.Proofs.Lexeme.Evaluation

/-!
Templates with any number of filters.

Filters behind one another are read in a loop, each around those before it, so a template can be
read however many there are, and its tree gets as deep as one likes. Here an empty body is filtered,
and a linted block stands behind it. Main statement: `read_filteredSource`.
-/

namespace TemplateLint

namespace Text

lemma unifyBreaks_eq_self {cs : List Char} (h : '\r' ∉ cs) : unifyBreaks cs = cs := by
  induction cs using unifyBreaks.induct with
  | case1 cs => simp at h
  | case2 cs => simp at h
  | case3 c cs h₁ h₂ ih =>
    rw [unifyBreaks.eq_3 _ _ h₁ h₂, ih fun hcs => h (List.mem_cons_of_mem _ hcs)]
  | case4 => rfl

lemma dropLastBreak_eq_self {cs : List Char} (h : '\n' ∉ cs) : dropLastBreak cs = cs := by
  induction cs using dropLastBreak.induct with
  | case1 => rfl
  | case2 => simp at h
  | case3 c cs hne ih =>
    rw [dropLastBreak.eq_3 _ _ hne, ih fun hcs => h (List.mem_cons_of_mem _ hcs)]

end Text

/-! ### Lexemes -/

/-- What stands before the second filter. -/
def beforeFilters : List Char := "\x7b%filter a".toList

/-- What stands behind the filters: the end of their tag, and a linted block. -/
def behindFilters : List Char :=
  "%\x7d\x7b%endfilter%\x7d\x7b%lint%\x7d\x7b\x7by\x7d\x7d\x7b%endlint%\x7d".toList

/-- The text behind the first filter of a template that has `n` more. -/
def filterChars : Nat → List Char
  | 0 => behindFilters
  | n + 1 => '|' :: 'a' :: filterChars n

/-- A template that filters an empty body `n + 1` times, and has a linted block behind that. -/
def filteredSource (n : Nat) : String := String.ofList (beforeFilters ++ filterChars n)

/-- The lexemes behind the first filter. -/
def filterLexemes : Nat → List Lexeme
  | 0 => (Lexer.run {} 20 ⟨.block, [], some 'a', false⟩ 0 behindFilters).1
  | n + 1 => ⟨.operator, ['|']⟩ :: ⟨.name, ['a']⟩ :: filterLexemes n

def filteredLexemes (n : Nat) : List Lexeme :=
  ⟨.blockBegin, [Char.ofNat 0x7B, '%']⟩ :: ⟨.name, "filter".toList⟩ :: ⟨.whitespace, [' ']⟩ ::
    ⟨.name, ['a']⟩ :: filterLexemes n

namespace Lexer

lemma run_of_step {d : Dialect} {st : State} {p : Nat} {cs rest : List Char} {ls : List Lexeme}
    {mode : Mode} {brackets : List Char} (h : step d st cs p = .step ls mode brackets rest)
    (rounds : Nat) :
    run d (rounds + 1) st p cs =
      (ls ++ (run d rounds (st.after mode brackets (Lexeme.textOf ls))
          (p + (Lexeme.textOf ls).length) rest).1,
        (run d rounds (st.after mode brackets (Lexeme.textOf ls))
          (p + (Lexeme.textOf ls).length) rest).2) := by
  simp only [run, h]

/-- A name ends before a bar and before the end of a tag. -/
lemma step_name (n p : Nat) :
    step {} ⟨.block, [], some '|', false⟩ ('a' :: filterChars n) p =
      .step [⟨.name, ['a']⟩] .block [] (filterChars n) := by
  cases n
  · rfl
  · rfl

lemma step_bar (n p : Nat) :
    step {} ⟨.block, [], some 'a', false⟩ ('|' :: 'a' :: filterChars n) p =
      .step [⟨.operator, ['|']⟩] .block [] ('a' :: filterChars n) :=
  rfl

lemma run_filterChars (n k p : Nat) :
    run {} (2 * n + (k + 20)) ⟨.block, [], some 'a', false⟩ p (filterChars n) =
      (filterLexemes n, none) := by
  induction n generalizing p with
  | zero =>
    rw [Nat.mul_zero, Nat.zero_add, filterChars, filterLexemes, run_eq_among, run_eq_among,
      marks_default]
    rfl
  | succ n ih =>
    have hrounds : 2 * (n + 1) + (k + 20) = 2 * n + (k + 20) + 1 + 1 := by omega
    rw [hrounds, filterChars, run_of_step (step_bar n p)]
    have hafter : State.after ⟨.block, [], some 'a', false⟩ .block []
      (Lexeme.textOf [⟨.operator, ['|']⟩]) = ⟨.block, [], some '|', false⟩ := rfl
    rw [hafter, run_of_step (step_name n _)]
    have hafter' : State.after ⟨.block, [], some '|', false⟩ .block []
      (Lexeme.textOf [⟨.name, ['a']⟩]) = ⟨.block, [], some 'a', false⟩ := rfl
    rw [hafter', ih]
    rfl

lemma length_filterChars (n : Nat) : (filterChars n).length = 2 * n + 39 := by
  induction n with
  | zero => rfl
  | succ n ih =>
    simp only [filterChars, List.length_cons, ih]
    omega

/-- Whether a character is part of no line break. -/
def isNoBreak (c : Char) : Bool := c != '\r' && c != '\n'

lemma all_isNoBreak_filterChars (n : Nat) : (filterChars n).all isNoBreak = true := by
  induction n with
  | zero => rfl
  | succ n ih =>
    rw [filterChars, List.all_cons, List.all_cons, ih]
    rfl

lemma normalise_filteredSource (n : Nat) :
    normalise {} (filteredSource n) = beforeFilters ++ filterChars n := by
  have hbefore : beforeFilters.all isNoBreak = true := rfl
  have hall : ∀ c ∈ beforeFilters ++ filterChars n, isNoBreak c = true := by
    rw [← List.all_eq_true, List.all_append, hbefore, all_isNoBreak_filterChars]
    rfl
  have hreturn : '\r' ∉ beforeFilters ++ filterChars n := fun h => absurd (hall _ h) (by decide)
  have hbreak : '\n' ∉ beforeFilters ++ filterChars n := fun h => absurd (hall _ h) (by decide)
  rw [normalise, filteredSource, String.toList_ofList, Text.unifyBreaks_eq_self hreturn,
    Text.dropLastBreak_eq_self hbreak]
  rfl

lemma run_filteredSource (n k : Nat) :
    run {} (2 * n + (k + 20) + 4) .start 0 (beforeFilters ++ filterChars n) =
      (filteredLexemes n, none) := by
  have hhead : ∀ rounds, run {} (rounds + 4) .start 0 (beforeFilters ++ filterChars n) =
      ([⟨.blockBegin, [Char.ofNat 0x7B, '%']⟩, ⟨.name, "filter".toList⟩, ⟨.whitespace, [' ']⟩,
        ⟨.name, ['a']⟩] ++ (run {} rounds ⟨.block, [], some 'a', false⟩ 10 (filterChars n)).1,
        (run {} rounds ⟨.block, [], some 'a', false⟩ 10 (filterChars n)).2) := by
    intro rounds
    rw [run_eq_among, run_eq_among, marks_default]
    cases n
    · rfl
    · rfl
  rw [hhead, run_filterChars]
  rfl

lemma lex_filteredSource (n : Nat) :
    lex {} (filteredSource n) = ⟨Lexeme.place 1 (filteredLexemes n), none⟩ := by
  rw [lex, normalise_filteredSource, lexChars]
  have hbefore : beforeFilters.length = 10 := rfl
  have hlength : 2 * (beforeFilters ++ filterChars n).length + 2 =
      2 * n + (2 * n + 76 + 20) + 4 := by
    rw [List.length_append, length_filterChars, hbefore]
    omega
  rw [hlength, run_filteredSource]
  rfl

end Lexer

namespace Grammar

open Phrasing

/-! ### Terminals -/

/-- What the terminals behind the filters are. -/
def behindShapes : List Shape := [.blockEnd, .blockBegin, .name "endfilter", .blockEnd, .blockBegin,
  .name "lint", .blockEnd, .variableBegin, .name "y", .variableEnd, .blockBegin, .name "endlint",
  .blockEnd]

/-- What the terminals behind the first filter are. -/
def filterShapes : Nat → List Shape
  | 0 => behindShapes
  | n + 1 => .op .pipe :: .name "a" :: filterShapes n

/-- Terminals with consecutive places, all on the first line. -/
def inARow : Nat → List Shape → List Terminal
  | _, [] => []
  | place, s :: ss => ⟨1, s, place⟩ :: inARow (place + 1) ss

/-- The stream that goes through terminals. -/
def Stream.along (bound : Nat) (ts : List Terminal) : Stream :=
  ⟨ts.headD default, ts.tail, none, bound⟩

lemma terminals_of_shape {l : Lexeme} {s : Shape} (h : Shape.ofLexeme ['\n'] l = .ok (some s))
    (hkind : l.kind ≠ .stripped) (hbreaks : Text.countBreaks l.text = 0) (place : Nat)
    (ls : List Lexeme) :
    Stream.terminals ['\n'] place (Lexeme.place 1 (l :: ls)) =
      (⟨1, s, place⟩ :: (Stream.terminals ['\n'] (place + 1) (Lexeme.place 1 ls)).1,
        (Stream.terminals ['\n'] (place + 1) (Lexeme.place 1 ls)).2) := by
  rw [Lexeme.place, hbreaks, Stream.terminals, h, if_neg hkind]

lemma ofLexeme_bar : Shape.ofLexeme ['\n'] ⟨.operator, ['|']⟩ = .ok (some (.op .pipe)) := rfl

lemma ofLexeme_a : Shape.ofLexeme ['\n'] ⟨.name, ['a']⟩ = .ok (some (.name "a")) := rfl

lemma terminals_filterLexemes (n place : Nat) :
    Stream.terminals ['\n'] place (Lexeme.place 1 (filterLexemes n)) =
      (inARow place (filterShapes n), none) := by
  induction n generalizing place with
  | zero =>
    rw [filterLexemes, Lexer.run_eq_among, Lexer.marks_default]
    rfl
  | succ n ih =>
    rw [filterLexemes, terminals_of_shape ofLexeme_bar (by decide) (by decide),
      terminals_of_shape ofLexeme_a (by decide) (by decide), ih]
    rfl

/-- The terminals of a template with filters. -/
def filteredTerminals (n : Nat) : List Terminal :=
  ⟨1, .blockBegin, 0⟩ :: ⟨1, .name "filter", 1⟩ :: ⟨1, .name "a", 3⟩ :: inARow 4 (filterShapes n)

lemma length_filteredTerminals (n : Nat) : (filteredTerminals n).length = 2 * n + 16 := by
  have hrow : ∀ ss place, (inARow place ss).length = ss.length := by
    intro ss
    induction ss with
    | nil => exact fun _ => rfl
    | cons s ss ih => exact fun place => congrArg (· + 1) (ih (place + 1))
  have hshapes : (filterShapes n).length = 2 * n + 13 := by
    induction n with
    | zero => rfl
    | succ n ih =>
      simp only [filterShapes, List.length_cons, ih]
      omega
  simp [filteredTerminals, hrow, hshapes]

lemma terminals_filteredLexemes (n : Nat) :
    Stream.terminals ['\n'] 0 (Lexeme.place 1 (filteredLexemes n)) =
      (filteredTerminals n, none) := by
  have hbegin : Shape.ofLexeme ['\n'] ⟨.blockBegin, [Char.ofNat 0x7B, '%']⟩ =
    .ok (some .blockBegin) := rfl
  have htag : Shape.ofLexeme ['\n'] ⟨.name, "filter".toList⟩ = .ok (some (.name "filter")) := rfl
  rw [filteredLexemes, terminals_of_shape hbegin (by decide) (by decide),
    terminals_of_shape htag (by decide) rfl]
  have hblank : ∀ ls, Stream.terminals ['\n'] 2 (Lexeme.place 1 (⟨.whitespace, [' ']⟩ :: ls)) =
    Stream.terminals ['\n'] 3 (Lexeme.place 1 ls) := fun _ => rfl
  rw [hblank, terminals_of_shape ofLexeme_a (by decide) (by decide), terminals_filterLexemes]
  rfl

lemma start_filteredSource (n : Nat) :
    Stream.start {} (filteredSource n) = .ok (.along (2 * n + 18) (filteredTerminals n)) := by
  have hbreak : ({} : Dialect).lineBreak.toList = ['\n'] := rfl
  rw [Stream.start, Lexer.lex_filteredSource]
  dsimp only
  rw [hbreak, terminals_filteredLexemes]
  dsimp only
  rw [length_filteredTerminals]
  rfl

/-! ### Reading -/

lemma Phrasing.run_bind_of_ok {α β : Type} {p : Phrasing α} {st st' : Stream} {a : α}
    (h : p.run st = .ok (a, st')) (f : α → Phrasing β) : (p >>= f).run st = (f a).run st' := by
  rw [StateT.run_bind, h]
  rfl

def filterOf (e : Option Node) : Node :=
  nodeAt 1 .filter [.ofOption e, .text "a", .nodes [], .nodes [], .ofOption none, .ofOption none]

/-- More filters around an expression. -/
def filtersAround : Nat → Node → Node
  | 0, e => e
  | n + 1, e => filtersAround n (filterOf (some e))

/-- One round of reading filters. -/
def pipeRound (e : Option Node) : Phrasing (Option Node ⊕ Option Node) := do
  if ← skipIf (.op .pipe) then return .inl (some (← Expression.filter phrase e)) else return .inr e

lemma run_pipeRound (b place n : Nat) (e : Node) :
    (pipeRound (some e)).run (.along (b + 1) (inARow place (filterShapes (n + 1)))) =
      .ok (.inl (some (filterOf (some e))),
        .along (b + 1) (inARow (place + 2) (filterShapes n))) := by
  cases n
  · rfl
  · rfl

/-- A bar behind a bar is read in the next round. -/
lemma run_pipes (n rounds b place : Nat) (e : Node) :
    (loopFor pipeRound (n + (rounds + 1)) (some e)).run
        (.along (b + 1) (inARow place (filterShapes n))) =
      .ok (some (filtersAround n e), .along (b + 1) (inARow (place + 2 * n) behindShapes)) := by
  induction n generalizing place e with
  | zero =>
    rw [Nat.zero_add]
    rfl
  | succ n ih =>
    have hround := run_pipeRound b place n e
    have hrounds : n + 1 + (rounds + 1) = n + (rounds + 1) + 1 := by omega
    have hplace : place + 2 * (n + 1) = place + 2 + 2 * n := by omega
    rw [hrounds, hplace, filtersAround, ← ih]
    exact run_bind_of_ok hround _

namespace Reading

lemma run_bind_of_ok {α β : Type} {p : Reading α} {s s' : Progress} {a : α}
    (h : p.run s = (.ok a, s')) (f : α → Reading β) : (p >>= f).run s = (f a).run s' := by
  have hbind : (p >>= f).run s = ExceptT.bindCont f (p.run s).1 (p.run s).2 := rfl
  rw [hbind, h]
  rfl

lemma run_phrase_of_ok {α : Type} {q : Phrasing α} {s : Progress} {st : Stream} {a : α}
    (h : q.run s.stream = .ok (a, st)) :
    (liftM q : Reading α).run s = (.ok a, { s with stream := st }) := by
  have hrun : (liftM q : Reading α).run s = (Reading.phrase q).run s := rfl
  have hq : q s.stream = .ok (a, st) := h
  rw [hrun]
  simp only [Reading.phrase, ExceptT.run_mk, StateT.run, hq]

variable {es : List Extension} {search : Search}

/-- A statement, and what stands behind it. -/
lemma run_nodes_of_statement {rounds stop : Nat} {pieces ns rest : List Node}
    {s s₁ s₂ s₃ s₄ : Progress} {t : Terminal} (hbegin : s.stream.current.shape = .blockBegin)
    (hskip : (liftM skip : Reading Unit).run s = (.ok (), s₁))
    (hword : s₁.stream.current.shape.isWord (search.ends.headD []) = false)
    (hstatement : (statement (nodes es rounds []) search es).run s₁ = (.ok ns, s₂))
    (hend : (liftM (expect .blockEnd) : Reading Terminal).run s₂ = (.ok t, s₃))
    (hrest : (nodes es rounds [] search).run s₃ = (.ok (rest, stop), s₄)) :
    (nodes es (rounds + 1) pieces search).run s =
      (.ok (output pieces ++ ns ++ rest, stop), s₄) := by
  rw [nodes]
  have hcurrent : (liftM current : Reading Terminal).run s = (.ok s.stream.current, s) := rfl
  refine (run_bind_of_ok hcurrent _).trans ?_
  dsimp only
  rw [hbegin]
  dsimp only
  rw [run_bind_of_ok hskip]
  have hshape : (liftM shape : Reading Shape).run s₁ = (.ok s₁.stream.current.shape, s₁) := rfl
  refine (run_bind_of_ok hshape _).trans ?_
  rw [hword]
  simp only [Bool.false_eq_true, if_false]
  rw [run_bind_of_ok hstatement, run_bind_of_ok hend, run_bind_of_ok hrest]
  rfl

/-- The end of the tag that filters, the empty body, and the tag behind it. -/
lemma run_body_behind (rounds bound place : Nat) (search : Search) :
    (body (nodes [.lint, .inspect] (rounds + 1) []) search "endfilter").run
        ⟨.along (bound + 1) (inARow place behindShapes), [], 0⟩ =
      (.ok ⟨[], place + 1, place + 1⟩,
        ⟨.along (bound + 1) (inARow (place + 3) (behindShapes.drop 3)), [], 0⟩) :=
  rfl

end Reading

/-- The node of the tag that filters. -/
def filteredNode (n : Nat) : Node :=
  nodeAt 1 .filterBlock [.nodes [], .ofOption (some (filtersAround n (filterOf none)))]

/-- What the linted block holds. -/
def nameOutput : Node := nodeAt 1 .output [.nodes [nodeAt 1 .name [.text "y", .text "load"]]]

/-- The region of the linted block, if its opening tag has the given place. -/
def blockBehind (place : Nat) : Region := ⟨.lint 0, 1, [nameOutput], place + 3, place + 6, 1⟩

namespace Reading

lemma run_nodes_behind (rounds bound place : Nat) :
    (nodes [.lint, .inspect] (rounds + 5) [] ⟨none, []⟩).run
        ⟨.along (bound + 1) (inARow place (behindShapes.drop 4)), [], 0⟩ =
      (.ok ([nameOutput], place + 9),
        ⟨⟨⟨1, .finish, place + 9⟩, [], none, bound + 1⟩, [blockBehind place], 1⟩) := by
  cbv

/-- The filters are read one around the other. -/
lemma run_filterBlock (n rounds : Nat) (search : Search) :
    (filterBlock (nodes [.lint, .inspect] (rounds + 1) []) search).run
        ⟨.along (2 * n + 18) (filteredTerminals n).tail, [], 0⟩ =
      (.ok (filteredNode n),
        ⟨.along (2 * n + 18) (inARow (4 + 2 * n + 3) (behindShapes.drop 3)), [], 0⟩) := by
  have hnext : next.run (.along (2 * n + 18) (filteredTerminals n).tail) =
      .ok (⟨1, .name "filter", 1⟩, .along (2 * n + 18) (filteredTerminals n).tail.tail) := rfl
  have hfirst : (Expression.filter Phrasing.phrase none).run
      (.along (2 * n + 18) (filteredTerminals n).tail.tail) =
        .ok (filterOf none, .along (2 * n + 18) (inARow 4 (filterShapes n))) := by
    generalize 2 * n + 17 = bound
    cases n
    · rfl
    · rfl
  have hpiped : (Expression.piped Phrasing.phrase (some (filterOf none))).run
      (.along (2 * n + 18) (inARow 4 (filterShapes n))) =
        .ok (some (filtersAround n (filterOf none)),
          .along (2 * n + 18) (inARow (4 + 2 * n) behindShapes)) := by
    have hrounds : 2 * n + 18 = n + (n + 17 + 1) := by omega
    rw [← run_pipes n (n + 17), ← hrounds]
    rfl
  rw [filterBlock]
  refine (run_bind_of_ok (run_phrase_of_ok hnext) _).trans ?_
  refine (run_bind_of_ok (run_phrase_of_ok hfirst) _).trans ?_
  refine (run_bind_of_ok (run_phrase_of_ok hpiped) _).trans ?_
  exact run_bind_of_ok (run_body_behind rounds (2 * n + 17) (4 + 2 * n) search) _

end Reading

/-- **Templates with any number of filters are read**, and so is the block behind them. -/
theorem read_filteredSource (n : Nat) :
    read {} [.lint, .inspect] (filteredSource n) =
      ⟨[blockBehind (4 + 2 * n + 4)], 1,
        .ok (nodeAt 1 .template [.nodes [filteredNode n, nameOutput]])⟩ := by
  have hstatement : (Reading.statement (Reading.nodes [.lint, .inspect] (2 * n + 17) [])
      ⟨none, []⟩ [.lint, .inspect]).run
        ⟨.along (2 * n + 18) (filteredTerminals n).tail, [], 0⟩ =
      (.ok [filteredNode n],
        ⟨.along (2 * n + 18) (inARow (4 + 2 * n + 3) (behindShapes.drop 3)), [], 0⟩) := by
    have hfilter := Reading.run_filterBlock n (2 * n + 16) ⟨some "filter", []⟩
    exact Reading.run_bind_of_ok hfilter _
  have hend : (liftM (expect .blockEnd) : Reading Terminal).run
      ⟨.along (2 * n + 18) (inARow (4 + 2 * n + 3) (behindShapes.drop 3)), [], 0⟩ =
        (.ok ⟨1, .blockEnd, 4 + 2 * n + 3⟩,
          ⟨.along (2 * n + 18) (inARow (4 + 2 * n + 4) (behindShapes.drop 4)), [], 0⟩) := rfl
  have hrest := Reading.run_nodes_behind (2 * n + 12) (2 * n + 17) (4 + 2 * n + 4)
  have hnodes : (Reading.nodes [.lint, .inspect] (2 * n + 18) [] ⟨none, []⟩).run
      ⟨.along (2 * n + 18) (filteredTerminals n), [], 0⟩ = _ :=
    Reading.run_nodes_of_statement rfl rfl rfl hstatement hend hrest
  have htemplate : (Reading.template [.lint, .inspect]).run
      ⟨.along (2 * n + 18) (filteredTerminals n), [], 0⟩ = _ :=
    Reading.run_bind_of_ok hnodes _
  rw [read, start_filteredSource]
  dsimp only
  rw [readFrom, htemplate]
  rfl

lemma edges_inARow (n place : Nat) :
    edges (inARow place (filterShapes n)) = edges (inARow (place + 2 * n) behindShapes) := by
  induction n generalizing place with
  | zero => rfl
  | succ n ih =>
    have hplace : place + 2 * (n + 1) = place + 2 + 2 * n := by omega
    rw [hplace, ← ih]
    rfl

/-- The template has tokens, and none of them opens an inspected region. -/
lemma exists_tokens_filteredSource (n : Nat) : ∃ tokens,
    tokenize {} (filteredSource n) = .ok tokens ∧ Block.openings "inspect" tokens = 0 := by
  obtain ⟨-, htokens⟩ := Stream.edges_start (start_filteredSource n)
  obtain ⟨tokens, htokenize, hedges⟩ := htokens rfl
  refine ⟨tokens, htokenize, ?_⟩
  have hstart : (Stream.along (2 * n + 18) (filteredTerminals n)).edges =
    .opening 0 (some "filter") :: edges (inARow 4 (filterShapes n)) := rfl
  rw [Block.openings_eq "inspect" 0, ← hedges, hstart, edges_inARow]
  simp [behindShapes, inARow, edges, headName?, Shape.name?, Edge.opens]

end Grammar

end TemplateLint
