import TemplateLint.Grammar.Stream
import TemplateLint.Proofs.Lexeme.Coverage
import TemplateLint.SourceIndex

/-!
The tags of a template, seen by the index and seen by the reader.

The index finds tags in the tokens of a template, the reader in its terminals. The lexer leaves a
tag only at its end, so the first word of a tag is the same for both, and a tag begins and ends at
the same places for both. Main statement: `edges_eq`.
-/

namespace TemplateLint

/-! ### What stands inside of tags -/

namespace Lexeme

/-- The kinds of lexemes that open a tag or a variable. -/
def Kind.opens (k : Kind) : Bool := [blockBegin, variableBegin, lineStatementBegin].contains k

/-- The kinds of lexemes that end a tag or a variable. -/
def Kind.ends (k : Kind) : Bool := [blockEnd, variableEnd, lineStatementEnd].contains k

/-- The kinds of lexemes that stand outside of tags and variables. -/
def Kind.isOuter (k : Kind) : Bool := !k.opens && !k.ends && !Lexer.isInner k

/-- Lexemes from inside of a tag or a variable, or from outside. -/
inductive Shaped : Bool → List Lexeme → Prop
  | nil (inside : Bool) : Shaped inside []
  | inner {l : Lexeme} {ls : List Lexeme} (hk : Lexer.isInner l.kind)
      (ho : l.kind = .operator → String.ofList l.text ∈ Scan.operators) (h : Shaped true ls) :
    Shaped true (l :: ls)
  | ending {l : Lexeme} {ls : List Lexeme} (hk : l.kind.ends) (h : Shaped false ls) :
    Shaped true (l :: ls)
  | opening {l : Lexeme} {ls : List Lexeme} (hk : l.kind.opens) (h : Shaped true ls) :
    Shaped false (l :: ls)
  | outer {l : Lexeme} {ls : List Lexeme} (hk : l.kind.isOuter) (h : Shaped false ls) :
    Shaped false (l :: ls)

lemma Shaped.tail {inside : Bool} {l : Lexeme} {ls : List Lexeme} (h : Shaped inside (l :: ls)) :
    ∃ inside', Shaped inside' ls ∧ (l.kind.opens → inside' = true) := by
  cases h with
  | inner hk ho h => exact ⟨true, h, fun _ => rfl⟩
  | ending hk h =>
    refine ⟨false, h, fun hopens => ?_⟩
    cases hkind : l.kind <;> rw [hkind] at hk hopens <;> first | cases hk; done | cases hopens
  | opening hk h => exact ⟨true, h, fun _ => rfl⟩
  | outer hk h =>
    refine ⟨false, h, fun hopens => ?_⟩
    simp [Kind.isOuter, hopens] at hk

lemma Shaped.append_outer {ls more : List Lexeme}
    (hls : ∀ l ∈ ls, l.kind.isOuter) (h : Shaped false more) : Shaped false (ls ++ more) := by
  induction ls with
  | nil => exact h
  | cons l ls ih =>
    exact .outer (hls l List.mem_cons_self) (ih fun l' hl' => hls l' (List.mem_cons_of_mem _ hl'))

end Lexeme

namespace Lexer

open Lexeme (Shaped)

variable {d : Dialect} {st : State} {cs rest : List Char} {ls : List Lexeme} {mode : Mode}

lemma outer_before {text dropped : List Char} :
    ∀ l ∈ Lexeme.ofText .data text ++ Lexeme.ofText .stripped dropped, l.kind.isOuter := by
  intro l hl
  rcases List.mem_append.1 hl with hl | hl <;>
    · rw [Lexeme.mem_ofText hl]
      rfl

lemma Produces.shaped {more : List Lexeme} (h : Produces d st cs ls mode rest)
    (hmore : Shaped (ending? d mode).isSome more) :
    Shaped (ending? d st.mode).isSome (ls ++ more) := by
  cases h with
  | mark text m hv hm =>
    have hout : (ending? d st.mode).isSome = false := by
      rcases hm with ⟨hm, -⟩ | ⟨hm, -⟩ <;> rw [hm] <;> rfl
    have hkind := hv.kind
    rw [hout, beforeAndMark, List.append_assoc, Lexeme.ofText_eq hv.isOptional.1]
    refine .append_outer outer_before ?_
    cases hk : m.kind <;> simp only [hk, Dialect.mark?, modeOf, ending?, Option.isSome,
      ne_eq, not_true_eq_false, reduceCtorEq, not_false_eq_true] at hkind hmore ⊢
    case blockBegin => exact .opening rfl hmore
    case variableBegin => exact .opening rfl hmore
    case lineStatementBegin => exact .opening rfl hmore
    all_goals exact .outer rfl hmore
  | data cs hm =>
    rw [hm]
    exact .outer rfl hmore
  | comment text ending rest hm =>
    rw [hm, List.append_assoc]
    refine .append_outer (fun l hl => ?_) (.outer rfl hmore)
    rw [Lexeme.mem_ofText hl]
    rfl
  | lineComment text rest hm =>
    rw [hm, List.append_assoc]
    refine .append_outer (fun l hl => ?_) (.outer rfl hmore)
    rw [Lexeme.mem_ofText hl]
    rfl
  | ending k s text rest hk =>
    rw [hk]
    refine .ending ?_ hmore
    unfold ending? at hk
    split at hk <;> cases hk <;> rfl
  | inner k text rest hk hm ho =>
    rw [hm] at hmore ⊢
    exact .inner hk ho hmore

lemma shaped_lexemesOf (d : Dialect) (source : String) : Shaped false (lexemesOf d source) := by
  refine run_induction (P := fun mode ls => Shaped (ending? d mode).isSome ls)
    (fun _ => .nil _) (fun hp hmore => hp.shaped hmore) _ .start 0 _

end Lexer

/-! ### Edges of tags -/

/-- An edge of a tag and its place among the tokens. An edge that opens a tag has the name of the
tag, if the tag has one. -/
inductive Edge where
  | opening (place : Nat) (name : Option String)
  | closing (place : Nat)
deriving DecidableEq

namespace Block

/-- The name of the tag whose opening token stands right before the given tokens, with the line of
the name. -/
def tagWord? : List Token → Option (String × Int)
  | [] => none
  | t :: ts =>
    if t.type == "whitespace" then tagWord? ts
    else if t.type == "name" then some (t.value, t.line)
    else none

lemma tagName?_eq (ts : List Token) : tagName? ts = (tagWord? ts).map (·.1) := by
  fun_induction tagWord? ts <;> simp_all [tagName?]

/-- The name of a tag is written inside of the tag. -/
lemma exists_of_tagWord? {ts : List Token} {name : String} {n : Int}
    (h : tagWord? ts = some (name, n)) : ∃ t ∈ ts.takeWhile (!closesTag ·), t.line = n := by
  fun_induction tagWord? ts with
  | case1 => cases h
  | case2 t ts hblank ih =>
    obtain ⟨t', ht', hn⟩ := ih h
    have hopen : closesTag t = false := by simp_all [closesTag]
    simp only [List.takeWhile_cons, hopen, Bool.not_false, if_true]
    exact ⟨t', .tail _ ht', hn⟩
  | case3 t ts hblank hname =>
    cases h
    have hopen : closesTag t = false := by simp_all [closesTag]
    simp only [List.takeWhile_cons, hopen, Bool.not_false, if_true]
    exact ⟨t, .head _, rfl⟩
  | case4 => cases h

/-- The edges of tags in tokens of which the first one has the given place. -/
def edges : Nat → List Token → List Edge
  | _, [] => []
  | place, t :: ts =>
    if opensTag t then .opening place (tagName? ts) :: edges (place + 1) ts
    else if closesTag t then .closing place :: edges (place + 1) ts
    else edges (place + 1) ts

end Block

namespace Grammar

def Shape.name? : Shape → Option String
  | .name s => some s
  | _ => none

def headName? : List Terminal → Option String
  | [] => none
  | t :: _ => t.shape.name?

def headWord? : List Terminal → Option (String × Int)
  | [] => none
  | t :: _ => t.shape.name?.map (·, (t.line : Int))

lemma headName?_eq (ts : List Terminal) : headName? ts = (headWord? ts).map (·.1) := by
  cases ts with
  | nil => rfl
  | cons t ts => cases h : t.shape.name? <;> simp [headName?, headWord?, h]

/-- The edges of tags in terminals. -/
def edges : List Terminal → List Edge
  | [] => []
  | t :: ts =>
    match t.shape with
    | .blockBegin => .opening t.place (headName? ts) :: edges ts
    | .blockEnd => .closing t.place :: edges ts
    | _ => edges ts

variable {lineBreak : List Char} {l : Lexeme} {ls : List (Nat × Lexeme)} {line place : Nat}
  {ts : List Terminal}

/-- Terminals without a fault: the first lexeme stands for a terminal or for none. -/
lemma terminals_cons (h : Stream.terminals lineBreak place ((line, l) :: ls) = (ts, none)) :
    ∃ s ts', Shape.ofLexeme lineBreak l = .ok s ∧
      Stream.terminals lineBreak (if l.kind = .stripped then place else place + 1) ls =
        (ts', none) ∧
      ts = (s.map fun s => ⟨line, s, place⟩).toList ++ ts' := by
  simp only [Stream.terminals] at h
  rcases hrest : Stream.terminals lineBreak (if l.kind = .stripped then place else place + 1) ls
    with ⟨ts', f⟩
  rw [hrest] at h
  cases hs : Shape.ofLexeme lineBreak l with
  | error m => simp [hs] at h
  | ok s =>
    cases s with
    | none =>
      rw [hs] at h
      cases h
      exact ⟨none, ts, rfl, rfl, rfl⟩
    | some s =>
      rw [hs] at h
      cases h
      exact ⟨some s, ts', rfl, rfl, rfl⟩

lemma tokens_cons (line : Nat) (l : Lexeme) (ls : List (Nat × Lexeme)) :
    Lexeme.tokens ((line, l) :: ls) =
      if l.kind = .stripped then Lexeme.tokens ls else l.toToken line :: Lexeme.tokens ls := by
  by_cases hk : l.kind = .stripped <;> simp [Lexeme.tokens, hk]

/-- What a lexeme stands for, if it stands for anything, by its kind. -/
lemma ofLexeme_cases {s : Option Shape} (h : Shape.ofLexeme lineBreak l = .ok s) :
    match l.kind with
    | .data => ∃ t, s = some (.data t)
    | .name => s = some (.name (String.ofList l.text))
    | .string => ∃ t, s = some (.string t)
    | .integer => ∃ n, s = some (.integer n)
    | .float => ∃ t, s = some (.float t)
    | .operator => s = (Op.ofText? (String.ofList l.text)).map .op
    | .blockBegin | .lineStatementBegin => s = some .blockBegin
    | .blockEnd | .lineStatementEnd => s = some .blockEnd
    | .variableBegin => s = some .variableBegin
    | .variableEnd => s = some .variableEnd
    | _ => s = none := by
  cases hk : l.kind <;> simp only [Shape.ofLexeme, hk, Except.ok.injEq] at h ⊢
  case data => exact ⟨_, h.symm⟩
  case name =>
    split at h <;> cases h
    rfl
  case string =>
    split at h <;> cases h
    exact ⟨_, rfl⟩
  case integer =>
    cases hn : integerValue (withoutLowLines l.text) <;> rw [hn] at h <;> cases h
    exact ⟨_, rfl⟩
  case float =>
    split at h <;> cases h
    exact ⟨_, rfl⟩
  all_goals exact h.symm

lemma isSome_ofText? : ∀ w ∈ Scan.operators, (Op.ofText? w).isSome := by decide

/-- Inside of a tag, both sides find the same first word. -/
lemma headWord_eq {lexemes : List Lexeme} {inside : Bool} (hs : Lexeme.Shaped inside lexemes)
    (hin : inside = true)
    (h : Stream.terminals lineBreak place (Lexeme.place line lexemes) = (ts, none)) :
    headWord? ts = Block.tagWord? (Lexeme.tokens (Lexeme.place line lexemes)) := by
  induction hs generalizing line place ts with
  | nil =>
    cases h
    rfl
  | @inner l ls hk ho hs ih =>
    obtain ⟨s, ts', hshape, hrest, rfl⟩ := terminals_cons h
    have hcases := ofLexeme_cases hshape
    have ih := ih rfl hrest
    rw [Lexeme.place, tokens_cons]
    cases hkind : l.kind <;> rw [hkind] at hk ho hcases <;>
      first | exact absurd hk (by decide) | skip
    case whitespace =>
      subst hcases
      simpa [Block.tagWord?, Lexeme.toToken, hkind, Lexeme.Kind.label] using ih
    case name =>
      subst hcases
      simp [headWord?, Shape.name?, Block.tagWord?, Lexeme.toToken, hkind, Lexeme.Kind.label]
    case operator =>
      obtain ⟨o, ho⟩ := Option.isSome_iff_exists.1 (isSome_ofText? _ (ho rfl))
      rw [ho] at hcases
      subst hcases
      simp [headWord?, Shape.name?, Block.tagWord?, Lexeme.toToken, hkind, Lexeme.Kind.label]
    all_goals
      obtain ⟨t, rfl⟩ := hcases
      simp [headWord?, Shape.name?, Block.tagWord?, Lexeme.toToken, hkind, Lexeme.Kind.label]
  | @ending l ls hk hs ih =>
    obtain ⟨s, ts', hshape, hrest, rfl⟩ := terminals_cons h
    have hcases := ofLexeme_cases hshape
    rw [Lexeme.place, tokens_cons]
    cases hkind : l.kind <;> rw [hkind] at hk hcases <;>
      first | exact absurd hk (by decide) | skip
    all_goals
      subst hcases
      simp [headWord?, Shape.name?, Block.tagWord?, Lexeme.toToken, hkind, Lexeme.Kind.label]
  | opening => cases hin
  | outer => cases hin

lemma headName_eq {lexemes : List Lexeme} (hs : Lexeme.Shaped true lexemes)
    (h : Stream.terminals lineBreak place (Lexeme.place line lexemes) = (ts, none)) :
    headName? ts = Block.tagName? (Lexeme.tokens (Lexeme.place line lexemes)) := by
  rw [headName?_eq, Block.tagName?_eq, headWord_eq hs rfl h]

/-- **A terminal that opens a tag has its token**, and the tag has the same first word on both
sides. -/
theorem tagWord_of_suffix {lexemes : List Lexeme} {inside : Bool} {t : Terminal}
    {more : List Terminal} (hs : Lexeme.Shaped inside lexemes)
    (h : Stream.terminals lineBreak place (Lexeme.place line lexemes) = (ts, none))
    (hsuffix : t :: more <:+ ts) (ht : t.shape = .blockBegin) :
    ∃ before opening rest,
      Lexeme.tokens (Lexeme.place line lexemes) = before ++ opening :: rest ∧
      t.place = place + before.length ∧ Block.tagWord? rest = headWord? more := by
  induction lexemes generalizing line place ts inside with
  | nil =>
    cases h
    exact absurd (List.suffix_nil.1 hsuffix) (List.cons_ne_nil _ _)
  | cons l ls ih =>
    obtain ⟨inside', hls, hopens⟩ := hs.tail
    obtain ⟨s, ts', hshape, hrest, rfl⟩ := terminals_cons h
    rw [Lexeme.place, tokens_cons]
    by_cases hmore : t :: more <:+ ts'
    · obtain ⟨before, opening, rest, htokens, hplace, hword⟩ := ih hls hrest hmore
      rw [htokens]
      by_cases hk : l.kind = .stripped
      · rw [if_pos hk] at hplace ⊢
        exact ⟨before, opening, rest, rfl, hplace, hword⟩
      · rw [if_neg hk] at hplace ⊢
        refine ⟨_ :: before, opening, rest, rfl, ?_, hword⟩
        rw [hplace, List.length_cons]
        omega
    · -- the terminal is that of the first lexeme
      have hfirst : s = some t.shape ∧ t.place = place ∧ more = ts' := by
        cases s with
        | none => exact absurd hsuffix hmore
        | some shape =>
          rcases List.suffix_cons_iff.1 hsuffix with heq | hlater
          · obtain ⟨rfl, rfl⟩ := List.cons.inj heq
            exact ⟨rfl, rfl, rfl⟩
          · exact absurd hlater hmore
      obtain ⟨rfl, hplace, rfl⟩ := hfirst
      rw [ht] at hshape
      have hcases := ofLexeme_cases hshape
      have hkind : l.kind.opens ∧ l.kind ≠ .stripped := by
        cases hk : l.kind <;> rw [hk] at hcases
        case blockBegin | lineStatementBegin => exact ⟨rfl, by decide⟩
        case operator =>
          obtain ⟨o, -, ho⟩ := Option.map_eq_some_iff.1 hcases.symm
          cases ho
        all_goals simp at hcases
      rw [if_neg hkind.2] at hrest ⊢
      refine ⟨[], _, _, rfl, hplace, ?_⟩
      exact (headWord_eq hls (hopens hkind.1) hrest).symm

lemma opensTag_toToken (l : Lexeme) (line : Nat) :
    Block.opensTag (l.toToken line) = (l.kind == .blockBegin || l.kind == .lineStatementBegin) := by
  cases hk : l.kind <;> simp [Block.opensTag, Lexeme.toToken, hk, Lexeme.Kind.label]

lemma closesTag_toToken (l : Lexeme) (line : Nat) :
    Block.closesTag (l.toToken line) = (l.kind == .blockEnd || l.kind == .lineStatementEnd) := by
  cases hk : l.kind <;> simp [Block.closesTag, Lexeme.toToken, hk, Lexeme.Kind.label]

lemma edges_cons {s : Option Shape} {more : List Token} (hs : Shape.ofLexeme lineBreak l = .ok s)
    (hname : l.kind.opens → headName? ts = Block.tagName? more)
    (hrest : edges ts = Block.edges (if l.kind = .stripped then place else place + 1) more) :
    edges ((s.map fun s => ⟨line, s, place⟩).toList ++ ts) =
      Block.edges place (if l.kind = .stripped then more else l.toToken line :: more) := by
  have hcases := ofLexeme_cases hs
  have hopens := opensTag_toToken l line
  have hcloses := closesTag_toToken l line
  cases hkind : l.kind <;> rw [hkind] at hcases hname hrest hopens hcloses
  case blockBegin | lineStatementBegin =>
    have hname := hname rfl
    subst hcases
    simpa [edges, Block.edges, hopens, hname] using hrest
  case operator =>
    subst hcases
    cases Op.ofText? (String.ofList l.text) <;>
      simpa [edges, Block.edges, hopens, hcloses] using hrest
  case data | string | integer | float =>
    obtain ⟨t, rfl⟩ := hcases
    simpa [edges, Block.edges, hopens, hcloses] using hrest
  all_goals
    subst hcases
    simpa [edges, Block.edges, hopens, hcloses] using hrest

/-- **Both sides find the same edges of tags.** -/
theorem edges_eq {lexemes : List Lexeme} {inside : Bool} (hs : Lexeme.Shaped inside lexemes)
    (h : Stream.terminals lineBreak place (Lexeme.place line lexemes) = (ts, none)) :
    edges ts = Block.edges place (Lexeme.tokens (Lexeme.place line lexemes)) := by
  induction hs generalizing line place ts with
  | nil =>
    cases h
    rfl
  | @inner l ls hk ho hs ih =>
    obtain ⟨s, ts', hshape, hrest, rfl⟩ := terminals_cons h
    rw [Lexeme.place, tokens_cons]
    refine edges_cons hshape (fun hopen => ?_) (ih hrest)
    cases hkind : l.kind <;> rw [hkind] at hk hopen <;> first | cases hk; done | cases hopen
  | @ending l ls hk hs ih =>
    obtain ⟨s, ts', hshape, hrest, rfl⟩ := terminals_cons h
    rw [Lexeme.place, tokens_cons]
    refine edges_cons hshape (fun hopen => ?_) (ih hrest)
    cases hkind : l.kind <;> rw [hkind] at hk hopen <;> first | cases hk; done | cases hopen
  | @opening l ls hk hs ih =>
    obtain ⟨s, ts', hshape, hrest, rfl⟩ := terminals_cons h
    rw [Lexeme.place, tokens_cons]
    exact edges_cons hshape (fun _ => headName_eq hs hrest) (ih hrest)
  | @outer l ls hk hs ih =>
    obtain ⟨s, ts', hshape, hrest, rfl⟩ := terminals_cons h
    rw [Lexeme.place, tokens_cons]
    refine edges_cons hshape (fun hopen => ?_) (ih hrest)
    simp [Lexeme.Kind.isOuter, hopen] at hk

end Grammar

end TemplateLint
