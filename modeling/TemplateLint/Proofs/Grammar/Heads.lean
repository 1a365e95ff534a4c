import TemplateLint.Proofs.Grammar.Template
import TemplateLint.Proofs.Grammar.Woven

/-!
The opening tags of linted regions.

A linted region has the line of the name in its opening tag. The reader meets the name when it goes
along the terminals of a template, right behind the terminal that opens the tag, and the first tag
that ends there is the one that the region begins behind. So the name is also the first word of the
tag that the index finds by the number of the region. Main statement: `tagWord_of_readFrom`.
-/

namespace TemplateLint.Grammar

variable {ts : List Terminal}

/-! ### Streams along terminals -/

namespace Stream

variable {st st' : Stream}

/-- A stream at one of the terminals, or behind the last one. -/
structure Along (ts : List Terminal) (st : Stream) : Prop where
  ahead : st.ahead <:+ ts
  current : st.current.shape ≠ .finish → st.current :: st.ahead <:+ ts

lemma along_of_advance (ha : st.ahead <:+ ts) (h : st.advance = .ok st') : Along ts st' := by
  unfold advance at h
  split at h
  · next t ts' hahead =>
    cases h
    rw [hahead] at ha
    exact ⟨(List.suffix_cons t ts').trans ha, fun _ => ha⟩
  · split at h
    · cases h
    · cases h
      exact ⟨ha, fun hs => absurd rfl hs⟩

lemma Along.leads (hst : Along ts st) (h : Leads st st') : Along ts st' := by
  induction h with
  | refl => exact hst
  | tail _ hadvance ih => exact along_of_advance ih.ahead hadvance

lemma Along.advance (hst : Along ts st) (hs : st.current.shape ≠ .finish)
    (h : st.advance = .ok st') (hs' : st'.current.shape ≠ .finish) :
    st.current :: st'.current :: st'.ahead <:+ ts := by
  have hcurrent := hst.current hs
  unfold Stream.advance at h
  split at h
  · next t ts' hahead =>
    cases h
    rwa [hahead] at hcurrent
  · split at h
    · cases h
    · cases h
      exact absurd rfl hs'

end Stream

/-- The opening tag of a linted region: the name in it is on the line of the region, and the end of
the tag is right before the region. -/
def Headed (ts : List Terminal) (r : Region) : Prop :=
  ∃ opening tag rest q es, opening :: tag :: rest <:+ ts ∧ opening.shape = .blockBegin ∧
    tag.shape = .name "lint" ∧ tag.line = r.line ∧
    edges (tag :: rest) = .closing q :: es ∧ r.first = q + 1

/-- The reader has gone along terminals, and all linted regions have their opening tags there. -/
structure Progress.Heads (ts : List Terminal) (s : Progress) : Prop where
  along : s.stream.Along ts
  headed : ∀ r ∈ s.regions, ∀ k, r.purpose = .lint k → Headed ts r

namespace Reading

open Phrasing

variable {self : Search → Reading (List Node × Nat)} {search : Search} {s s' : Progress}
  {ns : List Node}

lemma heads_woven {α : Type} {p : Reading α} (h : Woven self p)
    (hheads : ∀ search, Preserves (Progress.Heads ts) (self search)) :
    Preserves (Progress.Heads ts) p :=
  h.preserves (fun _ _ hs hleads => ⟨hs.along.leads hleads, hs.headed⟩) hheads

section

variable (hself : ∀ search, ReadsNodes search (self search))
  (hheads : ∀ search, Preserves (Progress.Heads ts) (self search))

include hself hheads

lemma heads_lintRegion {opening : Terminal} (ho : opening.shape = .blockBegin) (hs : s.Heads ts)
    (hname : s.stream.current.shape = .name "lint")
    (hbefore : opening :: s.stream.current :: s.stream.ahead <:+ ts)
    (h : (lintRegion self search).run s = (.ok ns, s')) : s'.Heads ts := by
  obtain ⟨tag, st, hnext, h⟩ := run_phrase_bind_eq_ok h
  obtain ⟨ordinal, s₂, h₂, h⟩ := run_bind_eq_ok h
  obtain ⟨b, s₃, h₃, h⟩ := run_bind_eq_ok h
  obtain ⟨u, s₄, h₄, h⟩ := run_bind_eq_ok h
  obtain ⟨rfl, hadvance⟩ := run_next_eq_ok hnext
  cases h₂
  have hs₃ : s₃.Heads ts := by
    refine heads_woven (woven_body _) hheads _ _ _ ?_ h₃
    exact ⟨hs.along.leads (.single hadvance), hs.headed⟩
  -- the body begins behind the first end of a tag
  obtain ⟨b', s₅, hbody, h₅⟩ := run_bind_eq_ok h₃
  obtain ⟨u', st', hskip, h₇⟩ := run_phrase_bind_eq_ok h₅
  cases h₇
  obtain ⟨w, -, -, q, es, -, hedges, hfirst, -⟩ := bodyRead_of_bodyUpTo hself hbody
  have htag := Stream.edges_of_not_isEdge hadvance (by rw [hname]; rfl)
  cases h₄
  cases h
  refine ⟨hs₃.along, fun r hr k hk => ?_⟩
  rcases List.mem_append.1 hr with hr | hr
  · exact hs₃.headed r hr k hk
  · rw [List.mem_singleton.1 hr]
    exact ⟨opening, _, _, q, es, hbefore, ho, hname, rfl, htag.symm.trans hedges, hfirst⟩

omit hself in
lemma heads_inspectRegion : Preserves (Progress.Heads ts) (inspectRegion self search) := by
  intro s ns s' hs h
  obtain ⟨tag, s₁, h₁, h⟩ := run_bind_eq_ok h
  obtain ⟨b, s₂, h₂, h⟩ := run_bind_eq_ok h
  obtain ⟨u, s₃, h₃, h⟩ := run_bind_eq_ok h
  have hs₁ := heads_woven woven_next hheads _ _ _ hs h₁
  have hs₂ := heads_woven (woven_body _) hheads _ _ _ hs₁ h₂
  cases h₃
  cases h
  refine ⟨hs₂.along, fun r hr k hk => ?_⟩
  rcases List.mem_append.1 hr with hr | hr
  · exact hs₂.headed r hr k hk
  · rw [List.mem_singleton.1 hr] at hk
    cases hk

lemma heads_statement {es : List Extension} {opening : Terminal} (ho : opening.shape = .blockBegin)
    (hs : s.Heads ts) (hbefore : s.stream.current.shape ≠ .finish →
      opening :: s.stream.current :: s.stream.ahead <:+ ts)
    (h : (statement self search es).run s = (.ok ns, s')) : s'.Heads ts := by
  obtain ⟨t, s₁, h₁, h⟩ := run_bind_eq_ok h
  cases h₁
  dsimp only at h
  split at h
  · next tag htag =>
    split at h
    · next p hp =>
      exact heads_woven (woven_map (woven_standardStatement hp)) hheads _ _ _ hs h
    · split at h
      · next e he =>
        have hmem : tag ∈ e.tags := by simpa using List.find?_some he
        cases e with
        | lint =>
          obtain rfl : tag = "lint" := by simpa [Extension.tags] using hmem
          exact heads_lintRegion hself hheads ho hs htag (hbefore (by rw [htag]; simp)) h
        | inspect => exact heads_inspectRegion hheads _ _ _ hs h
        | _ =>
          exact heads_woven (woven_extensionStatement (by simp) (by simp) tag) hheads _ _ _ hs h
      · obtain ⟨st, h₂, -⟩ := run_phrase_eq_ok h
        cases h₂
  · obtain ⟨st, h₂, -⟩ := run_phrase_eq_ok h
    cases h₂

end

/-- **All linted regions among nodes have their opening tags.** The induction is on the rounds. -/
theorem heads_nodes (es : List Extension) (rounds : Nat) :
    ∀ pieces search, Preserves (Progress.Heads ts) (nodes es rounds pieces search) := by
  induction rounds with
  | zero =>
    intro pieces search s r s' _ h
    obtain ⟨st, h₁, -⟩ := run_phrase_eq_ok h
    cases h₁
  | succ rounds ih =>
    intro pieces search s r s' hs h
    have hwoven : ∀ {α : Type} {p : Reading α} {s s' : Progress} {a : α},
        Woven (nodes es rounds []) p → s.Heads ts → p.run s = (.ok a, s') → s'.Heads ts :=
      fun hp hs hr => heads_woven hp (ih []) _ _ _ hs hr
    obtain ⟨t, s₀, h₀, h⟩ := run_bind_eq_ok h
    cases h₀
    dsimp only at h
    split at h
    · obtain ⟨u, s₁, h₁, h⟩ := run_bind_eq_ok h
      exact ih _ _ _ _ _ (hwoven (.phrase leading_skip) hs h₁) h
    · obtain ⟨u, s₁, h₁, h⟩ := run_bind_eq_ok h
      obtain ⟨e, s₂, h₂, h⟩ := run_bind_eq_ok h
      obtain ⟨u', s₃, h₃, h⟩ := run_bind_eq_ok h
      have hs₁ := hwoven (.phrase leading_skip) hs h₁
      have hs₂ := hwoven (woven_inside (inside_tuple _)) hs₁ h₂
      exact ih _ _ _ _ _ (hwoven (.phrase (leading_expect _)) hs₂ h₃) h
    · next hbegin =>
      obtain ⟨u, st, hskip, h⟩ := run_phrase_bind_eq_ok h
      obtain ⟨shape, s₁, h₁, h⟩ := run_bind_eq_ok h
      cases h₁
      have hadvance := run_skip_eq_ok hskip
      have hs₁ : Progress.Heads ts { s with stream := st } :=
        ⟨hs.along.leads (.single hadvance), hs.headed⟩
      split at h
      · cases h
        exact hs₁
      · obtain ⟨ns, s₂, h₂, h⟩ := run_bind_eq_ok h
        obtain ⟨u', s₃, h₃, h⟩ := run_bind_eq_ok h
        obtain ⟨rest, s₄, h₄, h⟩ := run_bind_eq_ok h
        cases h
        have hs₂ := heads_statement (readsNodes es rounds []) (ih []) hbegin hs₁
          (hs.along.advance (by rw [hbegin]; simp) hadvance) h₂
        have hs₃ := hwoven (.phrase (leading_expect _)) hs₂ h₃
        exact ih _ _ _ _ _ hs₃ h₄
    · cases h
      exact hs
    · obtain ⟨st, h₁, -⟩ := run_phrase_eq_ok h
      cases h₁

lemma heads_template (es : List Extension) :
    Preserves (Progress.Heads ts) (template es) := by
  intro s n s' hs h
  obtain ⟨progress, s₀, h₀, h⟩ := run_bind_eq_ok h
  cases h₀
  obtain ⟨r, s₁, h₁, h⟩ := run_bind_eq_ok h
  cases h
  exact heads_nodes es _ _ _ _ _ _ hs h₁

end Reading

/-! ### Tags in terminals and in tokens -/

lemma edges_suffix (ts more : List Terminal) : edges more <:+ edges (ts ++ more) := by
  induction ts with
  | nil => exact List.suffix_rfl
  | cons t ts ih =>
    rw [List.cons_append, edges]
    split
    · exact ih.trans (List.suffix_cons _ _)
    · exact ih.trans (List.suffix_cons _ _)
    · exact ih

/-- In edges in order, one edge only is right before another one. -/
lemma eq_of_before {es : List Edge} {e e' c : Edge} {rest rest' : List Edge}
    (hes : (es.map Edge.place).Pairwise (· < ·)) (h : e :: c :: rest <:+ es)
    (h' : e' :: c :: rest' <:+ es) : e = e' := by
  obtain ⟨before, hbefore⟩ := h
  obtain ⟨before', hbefore'⟩ := h'
  have hsplit : before ++ [e] ++ c :: rest = es := by simpa using hbefore
  have hsplit' : before' ++ [e'] ++ c :: rest' = es := by simpa using hbefore'
  rw [← hsplit, List.map_append, List.map_cons, List.pairwise_append, List.pairwise_cons] at hes
  obtain ⟨-, ⟨hlater, -⟩, hearlier⟩ := hes
  have hnot : c ∉ before ++ [e] := fun hc =>
    Nat.lt_irrefl _ (hearlier _ (List.mem_map_of_mem hc) _ (.head _))
  have hnot' : c ∉ rest := fun hc => Nat.lt_irrefl _ (hlater _ (List.mem_map_of_mem hc))
  obtain ⟨hsame, -⟩ := (List.append_cons_inj_of_notMem hnot hnot').1 (hsplit.trans hsplit'.symm)
  exact (List.append_singleton_inj.1 hsame).2

/-- The opening tag of a region stands where its terminals are, so the first word of the tag with
the region's number is on the region's line. -/
lemma tagWord_of_headed {lineBreak : List Char} {lexemes : List Lexeme} {tokens : List Token}
    {r : Region} {k q : Nat} {es : List Edge} (hs : Lexeme.Shaped false lexemes)
    (hts : Stream.terminals lineBreak 0 (Lexeme.place 1 lexemes) = (ts, none))
    (htokens : tokens = Lexeme.tokens (Lexeme.place 1 lexemes)) (hr : Headed ts r)
    (hfirst : r.first = q + 1)
    (hopen : Block.openingAfter "lint" k (Block.edges 0 tokens) = some (.closing q :: es)) :
    ∃ opening inTag, Block.findOpening "lint" k tokens = some (opening, inTag) ∧
      Block.tagWord? inTag = some ("lint", (r.line : Int)) := by
  obtain ⟨t, tag, rest, q', es', hsuffix, ht, hname, hline, hclosing, hfirst'⟩ := hr
  obtain rfl : q' = q := by omega
  obtain ⟨before, opening, inTag, hsplit, hfind, hin⟩ := Block.findOpening_of_edges hopen
  obtain ⟨before', opening', inTag', hsplit', hplace, hword⟩ :=
    tagWord_of_suffix hs hts hsuffix ht
  rw [← htokens] at hsplit'
  have hedges : edges ts = Block.edges 0 tokens := by
    rw [htokens]
    exact edges_eq hs hts
  -- both tags are right before the same closing edge
  have hplaces : t.place = before.length := by
    have hleft : .opening t.place (headName? (tag :: rest)) :: .closing q' :: es' <:+
        Block.edges 0 tokens := by
      obtain ⟨earlier, hearlier⟩ := hsuffix
      rw [← hedges, ← hearlier, ← hclosing]
      have hhead : edges (t :: tag :: rest) =
          .opening t.place (headName? (tag :: rest)) :: edges (tag :: rest) := by
        rw [edges, ht]
      rw [← hhead]
      exact edges_suffix earlier _
    have hright : .opening before.length (Block.tagName? inTag) :: .closing q' :: es <:+
        Block.edges 0 tokens := by
      have hsuffix' := Block.edges_suffix 0 before (opening :: inTag)
      rw [Block.edges_of_opensTag (Block.opensTag_of_findOpening hfind), ← hin, ← hsplit,
        Nat.zero_add] at hsuffix'
      exact hsuffix'
    exact (Edge.opening.inj (eq_of_before (Block.pairwise_place 0 tokens) hleft hright)).1
  obtain ⟨rfl, hrest⟩ := List.append_inj (hsplit.symm.trans hsplit') (by omega)
  obtain ⟨rfl, rfl⟩ := List.cons.inj hrest
  refine ⟨opening, inTag, hfind, ?_⟩
  rw [hword, headWord?, hname, hline]
  rfl

/-- **A linted region is on the line of its tag**: if a template is read, the first word of the
`k`-th lint tag of its tokens is on the line of the region with the number `k`. -/
theorem tagWord_of_readFrom {d : Dialect} {es : List Extension} {source : String} {st : Stream}
    {n : Node} {tokens : List Token} (hst : Stream.start d source = .ok st)
    (h : (readFrom es st).tree = .ok n) (htokens : tokenize d source = .ok tokens) :
    ∀ r ∈ (readFrom es st).regions, ∀ k, r.purpose = .lint k → ∃ opening inTag,
      Block.findOpening "lint" k tokens = some (opening, inTag) ∧
        Block.tagWord? inTag = some ("lint", (r.line : Int)) := by
  intro r hr k hk
  obtain ⟨rs, s, hrun, -, hfault⟩ := run_of_readFrom hst h
  obtain ⟨tokens', htokens', -, hbalanced⟩ := balanced_readFrom hst h
  obtain ⟨ts, fault, bound, hadvance, -, hlexed⟩ := Stream.advance_of_start hst
  obtain ⟨hts, htokenize⟩ := hlexed hfault
  have halong : st.Along ts := Stream.along_of_advance List.suffix_rfl hadvance
  obtain rfl : tokens' = tokens := Except.ok.inj (htokens'.symm.trans htokens)
  have heads : s.Heads ts :=
    Reading.heads_template es _ _ _ ⟨halong, fun r' hr' => by cases hr'⟩ hrun
  have hheaded : Headed ts r := by
    refine heads.headed r ?_ k hk
    simpa only [readFrom, hrun] using hr
  obtain ⟨-, q, es', hfirst, hopen, -⟩ := hbalanced.found hr hk
  exact tagWord_of_headed (Lexer.shaped_lexemesOf d source) hts
    (Except.ok.inj (htokens'.symm.trans htokenize)) hheaded hfirst hopen

end TemplateLint.Grammar
