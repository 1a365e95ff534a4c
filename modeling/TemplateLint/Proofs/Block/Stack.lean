import Mathlib
import TemplateLint.Proofs.Block.Count

/-!
Blocks as a machine with a stack sees them.

The machine reads the tags of a template from the first one to the last one. It puts a block on its
stack when a tag opens one, and takes the innermost block off when a tag closes one. Extracting a
block by its number gives the block that the machine numbers so. Main statement:
`extract_eq_blocks`.
-/

namespace TemplateLint.Block

variable {name beginTag endTag : String} {t : Token} {ts rest : List Token} {p s e : Nat}

/-! ### The machine -/

/-- A block: the place behind its opening tag, and that of its closing tag if it has one. -/
structure Span where
  first : Nat
  stop? : Option Nat
deriving DecidableEq, Repr

namespace Span

/-- A block that is never closed goes on to the end. -/
def stop (b : Span) (ts : List Token) : Nat := b.stop?.getD ts.length

def tokens (b : Span) (ts : List Token) : List Token :=
  (ts.drop b.first).take (b.stop ts - b.first)

/-- A block begins behind the begin of another one and ends not behind its end, and before its end
if the other one is closed at all. -/
structure StrictlyInside (ts : List Token) (b c : Span) : Prop where
  first : c.first < b.first
  stop : b.stop ts ≤ c.stop ts
  closed : c.stop?.isSome → b.stop ts < c.stop ts

end Span

structure Machine where
  /-- The blocks in the order in which they have been opened. -/
  spans : List Span
  /-- The numbers of the blocks that are open, innermost first. -/
  stack : List Nat

namespace Machine

def push (m : Machine) (first : Nat) : Machine :=
  ⟨m.spans ++ [⟨first, none⟩], m.spans.length :: m.stack⟩

/-- Closes the innermost block; if none is open then nothing is done. -/
def pop (m : Machine) (place : Nat) : Machine :=
  match m.stack with
  | [] => m
  | k :: ks => ⟨m.spans.modify k fun b => { b with stop? := some place }, ks⟩

/-- The place behind the tag that is opened at a place. -/
def behindTag (ts : List Token) (p : Nat) : Nat :=
  ts.length - (afterTag (ts.drop (p + 1))).length

def step (beginTag endTag : String) (ts : List Token) (m : Machine) (p : Nat) : Machine :=
  if opensAt beginTag ts p then m.push (behindTag ts p)
  else if opensAt endTag ts p then m.pop p
  else m

end Machine

/-- The blocks of tokens, in the order in which they are opened. -/
def spansOf (beginTag endTag : String) (ts : List Token) : List Span :=
  ((List.range' 0 ts.length).foldl (Machine.step beginTag endTag ts) ⟨[], []⟩).spans

/-! ### The machine counts too -/

namespace Machine

/-- The blocks on the stack are different ones, and none of them has been closed. -/
structure Sound (m : Machine) : Prop where
  nodup : m.stack.Nodup
  opened : ∀ k ∈ m.stack, ∃ first, m.spans[k]? = some ⟨first, none⟩

lemma Sound.lt {m : Machine} (hm : m.Sound) {k : Nat} (hk : k ∈ m.stack) :
    k < m.spans.length := by
  obtain ⟨first, h⟩ := hm.opened k hk
  exact (List.getElem?_eq_some_iff.1 h).1

lemma Sound.push {m : Machine} (hm : m.Sound) (first : Nat) : (m.push first).Sound where
  nodup := List.nodup_cons.2 ⟨fun h => (hm.lt h).false, hm.nodup⟩
  opened k hk := by
    rcases List.mem_cons.1 hk with rfl | hk
    · exact ⟨first, by simp [Machine.push]⟩
    · rw [Machine.push, List.getElem?_append_left (hm.lt hk)]
      exact hm.opened k hk

lemma Sound.pop {m : Machine} (hm : m.Sound) (p : Nat) : (m.pop p).Sound := by
  unfold Machine.pop
  split
  · exact hm
  · next k ks hstack =>
    have hnodup := hm.nodup
    rw [hstack, List.nodup_cons] at hnodup
    refine ⟨hnodup.2, fun j hj => ?_⟩
    have hne : k ≠ j := fun h => hnodup.1 (h ▸ hj)
    rw [List.getElem?_modify_ne _ _ hne]
    exact hm.opened j (hstack ▸ .tail _ hj)

/-- What has become of a machine when it has read the places from `p` on. -/
structure Reads (beginTag endTag : String) (ts : List Token) (p : Nat) (m m' : Machine) :
    Prop where
  /-- A block that is not open stays as it is. -/
  kept : ∀ k < m.spans.length, k ∉ m.stack → m'.spans[k]? = m.spans[k]?
  /-- The block in the given depth of the stack is closed when the blocks above it are. -/
  closed : ∀ depth k first, m.stack[depth]? = some k → m.spans[k]? = some ⟨first, none⟩ →
    ∃ stop?, m'.spans[k]? = some ⟨first, stop?⟩ ∧ ClosedAt beginTag endTag ts depth p stop?
  length : m'.spans.length = m.spans.length + tagsIn beginTag ts p ts.length
  /-- A tag behind the place opens the block that has its number. -/
  later : ∀ q, p ≤ q → opensAt beginTag ts q → ∃ stop?,
    m'.spans[m.spans.length + tagsIn beginTag ts p q]? = some ⟨behindTag ts q, stop?⟩ ∧
      ClosedAt beginTag endTag ts 0 (q + 1) stop?

namespace Reads

variable {m m' m₁ : Machine}

/-- After the last place nothing has become of it. -/
lemma refl (m : Machine) (h : ts.length ≤ p) : Reads beginTag endTag ts p m m where
  kept _ _ _ := rfl
  closed _ _ _ _ hk := ⟨none, hk, .of_length_le h⟩
  length := by simp [tagsIn, show ts.length - p = 0 by omega]
  later q hq hopens := by simp [opensAt, List.drop_eq_nil_of_le (h.trans hq)] at hopens

lemma of_push (hne : beginTag ≠ endTag) (hlt : p < ts.length) (hm : m.Sound)
    (hb : opensAt beginTag ts p)
    (h : Reads beginTag endTag ts (p + 1) (m.push (behindTag ts p)) m') :
    Reads beginTag endTag ts p m m' := by
  have he : ¬opensAt endTag ts p := fun he => hne (opensAt_unique hb he)
  have hlength : (m.push (behindTag ts p)).spans.length = m.spans.length + 1 := by simp [push]
  have hold : ∀ k < m.spans.length, (m.push (behindTag ts p)).spans[k]? = m.spans[k]? :=
    fun k hk => List.getElem?_append_left hk
  refine ⟨fun k hk hstack => ?_, fun depth k first hk hspan => ?_, ?_, fun q hq hopens => ?_⟩
  · rw [h.kept k (by omega) (by simp [push, hstack, hk.ne]), hold k hk]
  · obtain ⟨stop?, hspan', hclosed⟩ := h.closed (depth + 1) k first hk
      ((hold k (hm.lt (List.mem_of_getElem? hk))).trans hspan)
    exact ⟨stop?, hspan', .cons (by rw [if_pos hb, if_neg he]) hclosed⟩
  · rw [h.length, hlength, tagsIn_succ _ _ hlt, if_pos hb]
    omega
  · rcases Nat.eq_or_lt_of_le hq with rfl | hq'
    · -- the new block is the innermost one
      have hnew : (m.push (behindTag ts p)).spans[m.spans.length]? =
          some ⟨behindTag ts p, none⟩ := by simp [push]
      rw [tagsIn_self]
      exact h.closed 0 _ _ rfl hnew
    · obtain ⟨stop?, hspan, hclosed⟩ := h.later q hq' hopens
      refine ⟨stop?, ?_, hclosed⟩
      rw [← hspan, hlength, tagsIn_succ _ _ hq', if_pos hb]
      congr 1
      omega

/-- Where no block is opened, those that are opened later are the same from the next place on. -/
lemma of_not_opensAt (hlt : p < ts.length) (hb : ¬opensAt beginTag ts p)
    (hlength : m₁.spans.length = m.spans.length)
    (h : Reads beginTag endTag ts (p + 1) m₁ m')
    (hkept : ∀ k < m.spans.length, k ∉ m.stack → m'.spans[k]? = m.spans[k]?)
    (hclosed : ∀ depth k first, m.stack[depth]? = some k → m.spans[k]? = some ⟨first, none⟩ →
      ∃ stop?, m'.spans[k]? = some ⟨first, stop?⟩ ∧
        ClosedAt beginTag endTag ts depth p stop?) :
    Reads beginTag endTag ts p m m' where
  kept := hkept
  closed := hclosed
  length := by rw [h.length, hlength, tagsIn_succ _ _ hlt, if_neg hb, Nat.zero_add]
  later q hq hopens := by
    rcases Nat.eq_or_lt_of_le hq with rfl | hq'
    · exact absurd hopens hb
    · obtain ⟨stop?, hspan, hstop⟩ := h.later q hq' hopens
      refine ⟨stop?, ?_, hstop⟩
      rw [← hspan, hlength, tagsIn_succ _ _ hq', if_neg hb, Nat.zero_add]

lemma of_skip (hlt : p < ts.length) (hb : ¬opensAt beginTag ts p) (he : ¬opensAt endTag ts p)
    (h : Reads beginTag endTag ts (p + 1) m m') : Reads beginTag endTag ts p m m' := by
  refine of_not_opensAt hlt hb rfl h h.kept fun depth k first hk hspan => ?_
  obtain ⟨stop?, hspan', hclosed⟩ := h.closed depth k first hk hspan
  exact ⟨stop?, hspan', .cons (by rw [if_neg hb, if_neg he]) hclosed⟩

lemma of_pop (hlt : p < ts.length) (hm : m.Sound) (hb : ¬opensAt beginTag ts p)
    (he : opensAt endTag ts p) (h : Reads beginTag endTag ts (p + 1) (m.pop p) m') :
    Reads beginTag endTag ts p m m' := by
  cases hs : m.stack with
  | nil =>
    have hpop : m.pop p = m := by rw [pop, hs]
    rw [hpop] at h
    exact of_not_opensAt hlt hb rfl h h.kept fun depth k first hk _ => by simp [hs] at hk
  | cons j js =>
    have hpop : m.pop p = ⟨m.spans.modify j fun b => { b with stop? := some p }, js⟩ := by
      rw [pop, hs]
    have hnodup := hm.nodup
    rw [hs, List.nodup_cons] at hnodup
    rw [hpop] at h
    refine of_not_opensAt hlt hb (by simp) h (fun k hk hstack => ?_)
      fun depth k first hk hspan => ?_
    · rw [hs, List.mem_cons, not_or] at hstack
      rw [h.kept k (by simpa using hk) hstack.2, List.getElem?_modify_ne _ _ (Ne.symm hstack.1)]
    · rw [hs] at hk
      cases depth with
      | zero =>
        -- the innermost block is closed here, and it stays so
        obtain rfl : j = k := by simpa using hk
        refine ⟨some p, ?_, le_rfl, by simp [tagsIn_one, hb, he], fun x hx hxp => by omega⟩
        rw [h.kept j (by simpa using hm.lt (by simp [hs])) hnodup.1]
        simp [hspan]
      | succ depth =>
        have hjs : js[depth]? = some k := hk
        have hne : j ≠ k := fun hjk => hnodup.1 (hjk ▸ List.mem_of_getElem? hjs)
        obtain ⟨stop?, hspan', hclosed⟩ := h.closed depth k first hjs
          (by rw [List.getElem?_modify_ne _ _ hne, hspan])
        exact ⟨stop?, hspan', .cons (by rw [if_neg hb, if_pos he]) hclosed⟩

end Reads

lemma reads_foldl (hne : beginTag ≠ endTag) (n : Nat) (hn : p + n = ts.length) {m : Machine}
    (hm : m.Sound) :
    Reads beginTag endTag ts p m ((List.range' p n).foldl (step beginTag endTag ts) m) := by
  induction n generalizing p m with
  | zero => exact .refl m (by omega)
  | succ n ih =>
    have hlt : p < ts.length := by omega
    have hn' : p + 1 + n = ts.length := by omega
    rw [List.range'_succ, List.foldl_cons, step]
    split
    · next hb => exact .of_push hne hlt hm hb (ih hn' (hm.push _))
    · next hb =>
      split
      · next he => exact .of_pop hlt hm hb he (ih hn' (hm.pop p))
      · next he => exact .of_skip hlt hb he (ih hn' hm)

end Machine

/-- The blocks are as many as the tags that open one, and each goes from its opening tag to the
place with which more blocks have been closed than opened. -/
lemma spansOf_of_opensAt (hne : beginTag ≠ endTag) (ts : List Token) :
    (spansOf beginTag endTag ts).length = tagsIn beginTag ts 0 ts.length ∧
      ∀ q, opensAt beginTag ts q → ∃ stop?,
        (spansOf beginTag endTag ts)[tagsIn beginTag ts 0 q]? =
          some ⟨Machine.behindTag ts q, stop?⟩ ∧
        ClosedAt beginTag endTag ts 0 (q + 1) stop? := by
  have hempty : Machine.Sound ⟨[], []⟩ := ⟨List.nodup_nil, fun k hk => by cases hk⟩
  have h := Machine.reads_foldl hne ts.length (Nat.zero_add ts.length) hempty
  refine ⟨by simpa [spansOf] using h.length, fun q hopens => ?_⟩
  simpa [spansOf] using h.later q (Nat.zero_le q) hopens

/-! ### Extracting a block -/

/-- In tidy tokens the machine and the search agree on where a tag ends. -/
lemma Tidy.endsBefore (hts : Tidy ts) (h : opensTagAt ts p) :
    EndsBefore ts p (Machine.behindTag ts p) ∧
      ts.drop (Machine.behindTag ts p) = afterTag (ts.drop (p + 1)) := by
  obtain ⟨q, hpq, hq, -⟩ := hts p h
  obtain ⟨hlt, -, htokens, hclose, hfirst⟩ := afterTag_of_drop rfl ⟨q, hpq, hq⟩
  exact ⟨⟨hlt, hclose, fun x hx hxs => hfirst x hx hxs⟩, htokens⟩

/-- What is extracted under the number `k`, and the block that it is. -/
structure Extracted (beginTag endTag : String) (ts : List Token) (k : Nat) (block : Span)
    (e : Extraction) : Prop where
  /-- The block begins behind the tag that has `k` tags of its name before it. -/
  opening : ∃ p, opensAt beginTag ts p ∧ tagsIn beginTag ts 0 p = k ∧ EndsBefore ts p block.first
  /-- It ends with the tag with which, counted from there, more blocks have been closed than
  opened; if there is no such tag then it is not closed. -/
  stop : ∀ q, block.stop? = some q ↔ Outnumbers beginTag endTag ts block.first q
  tokens : e.tokens = block.tokens ts
  /-- One warning is told if the block is not closed, and nothing otherwise. -/
  log : if block.stop?.isSome then e.log = [] else ∃ r, e.log = [r] ∧ r.level = .warning

lemma extract_of_findOpening_none {k : Nat} (h : findOpening beginTag k ts = none) :
    (extract ts k beginTag endTag).tokens = [] ∧
      ∃ r, (extract ts k beginTag endTag).log = [r] ∧ r.level = .warning := by
  have hk : ¬(k : Int) < 0 := by omega
  rw [extract, if_neg hk, Int.toNat_natCast, h]
  exact ⟨rfl, _, rfl, rfl⟩

/-- The search for the end of a block whose opening tag is found. -/
lemma extract_of_findOpening (endTag : String) {k : Nat} {opening : Token}
    (h : findOpening beginTag k ts = some (opening, rest)) :
    extract ts k beginTag endTag = (upToClosing beginTag endTag 0 (afterTag rest)).elim
      ⟨afterTag rest, some (.closing beginTag endTag opening.line)⟩ (⟨·, none⟩) := by
  have hk : ¬(k : Int) < 0 := by omega
  rw [extract, if_neg hk, Int.toNat_natCast, h]
  dsimp only
  cases upToClosing beginTag endTag 0 (afterTag rest) <;> rfl

/-- Extracting a block whose opening tag is found. -/
lemma extracted_of_findOpening (hne : beginTag ≠ endTag) (hts : Tidy ts) {k : Nat}
    {opening : Token} (hp : ts.drop p = opening :: rest) (hopens : opensAt beginTag ts p)
    (hcount : tagsIn beginTag ts 0 p = k)
    (hfind : findOpening beginTag k ts = some (opening, rest)) :
    ∃ block, (spansOf beginTag endTag ts)[k]? = some block ∧
      Extracted beginTag endTag ts k block (extract ts k beginTag endTag) := by
  obtain ⟨stop?, hspan, hclosed⟩ := (spansOf_of_opensAt hne ts).2 p hopens
  have htag := opensTagAt_of_opensAt hopens
  obtain ⟨hends, htokens⟩ := hts.endsBefore htag
  rw [hcount] at hspan
  rw [drop_succ_of_drop hp] at htokens
  -- from the end of the tag on, machine and search close the block at the same place
  have hsearch := closedAt_upToClosing hne htokens 0
  have hsame := hclosed.unique
    (hsearch.of_no_tags hends.lt.le fun r hr => hends.not_opensTagAt hts htag r hr)
  rw [← hsame] at hsearch
  have hextract := extract_of_findOpening endTag hfind
  refine ⟨_, hspan, ⟨p, hopens, hcount, hends⟩, hsearch.outnumbers_iff, ?_, ?_⟩
  · rw [hextract, Span.tokens, Span.stop, htokens, hsame]
    cases hup : upToClosing beginTag endTag 0 (afterTag rest) with
    | some inside =>
      change inside = _
      rw [Option.map_some, Option.getD_some, Nat.add_sub_cancel_left]
      exact List.prefix_iff_eq_take.1 (prefix_of_upToClosing hup)
    | none =>
      change afterTag rest = _
      rw [Option.map_none, Option.getD_none, List.take_of_length_le]
      rw [← htokens, List.length_drop]
  · rw [hextract, hsame]
    cases upToClosing beginTag endTag 0 (afterTag rest) with
    | some inside => rfl
    | none => exact ⟨_, rfl, rfl⟩

/-- Of two blocks the one that is opened later is inside of the other one or behind it. -/
lemma Extracted.nested_or_behind {k m : Nat} {b c : Span} {e f : Extraction}
    (hne : beginTag ≠ endTag) (hts : Tidy ts) (hkm : k < m)
    (hb : Extracted beginTag endTag ts k b e) (hc : Extracted beginTag endTag ts m c f) :
    c.StrictlyInside ts b ∨ b.stop ts < c.first := by
  obtain ⟨p, hp, rfl, hpends⟩ := hb.opening
  obtain ⟨q, hq, rfl, hqends⟩ := hc.opening
  have hqtag := opensTagAt_of_opensAt hq
  have hbq : b.first ≤ q := Nat.not_lt.1 fun h => hpends.not_opensTagAt hts
    (opensTagAt_of_opensAt hp) q (lt_of_tagsIn_lt hkm) h hqtag
  have hqc : q < c.first := (Nat.lt_succ_self q).trans hqends.lt
  have hno := hqends.not_opensTagAt hts hqtag
  cases hbstop : b.stop? with
  | none =>
    refine .inl ⟨by omega, ?_, fun h => by simp [hbstop] at h⟩
    have hbn : b.stop ts = ts.length := by rw [Span.stop, hbstop]; rfl
    rw [hbn, Span.stop]
    cases hcstop : c.stop? with
    | none => rfl
    | some r =>
      have hr := opensTagAt_of_opensAt ((hc.stop r).1 hcstop).closes
      by_contra hge
      rw [opensTagAt, List.getElem?_eq_none (by simpa using (Nat.not_le.1 hge).le)] at hr
      cases hr
  | some stop =>
    have hbs : b.stop ts = stop := by rw [Span.stop, hbstop]; rfl
    have hout := (hb.stop stop).1 hbstop
    rcases Nat.lt_trichotomy stop q with hlt | rfl | hgt
    · exact .inr (by omega)
    · exact absurd (opensAt_unique hq hout.closes) hne
    · obtain ⟨r, hr, hinner⟩ := hout.inside hne hq hbq hgt hqc hno
      have hcs : c.stop ts = r := by rw [Span.stop, (hc.stop r).2 hinner]; rfl
      exact .inl ⟨by omega, by omega, fun _ => by omega⟩

/-- **A block is extracted as a machine with a stack sees it.** The machine opens as many blocks as
there are opening tags. A number without an opening tag gets no tokens and one warning; any other
number gets the tokens of the machine's block, which are found by counting tags from its opening tag
on. Of two blocks the later one is strictly inside of the other one or behind it. -/
theorem extract_eq_blocks (beginTag endTag : String) (hne : beginTag ≠ endTag) (ts : List Token)
    (hts : Tidy ts) :
    (spansOf beginTag endTag ts).length = tagsIn beginTag ts 0 ts.length ∧
    (∀ k : Nat, tagsIn beginTag ts 0 ts.length ≤ k →
      (extract ts k beginTag endTag).tokens = [] ∧
      ∃ r, (extract ts k beginTag endTag).log = [r] ∧ r.level = .warning) ∧
    (∀ k < tagsIn beginTag ts 0 ts.length, ∃ block,
      (spansOf beginTag endTag ts)[k]? = some block ∧
      Extracted beginTag endTag ts k block (extract ts k beginTag endTag)) ∧
    ∀ k m : Nat, k < m → ∀ b c : Span, (spansOf beginTag endTag ts)[k]? = some b →
      (spansOf beginTag endTag ts)[m]? = some c →
      c.StrictlyInside ts b ∨ b.stop ts < c.first := by
  have hlength := (spansOf_of_opensAt hne ts).1
  have hblock : ∀ k < tagsIn beginTag ts 0 ts.length, ∃ block,
      (spansOf beginTag endTag ts)[k]? = some block ∧
      Extracted beginTag endTag ts k block (extract ts k beginTag endTag) := by
    intro k hk
    have hfind := findOpening_of_drop beginTag (List.drop_zero : ts.drop 0 = ts) k
    split at hfind
    · next opening rest hsome =>
      obtain ⟨q, -, hq, hopens, hcount⟩ := hfind
      exact extracted_of_findOpening hne hts hq hopens hcount hsome
    · omega
  refine ⟨hlength, fun k hk => ?_, hblock, fun k m hkm b c hb hc => ?_⟩
  · exact extract_of_findOpening_none (findOpening_eq_none hk)
  · have hm : m < tagsIn beginTag ts 0 ts.length := by
      rw [← hlength]
      exact (List.getElem?_eq_some_iff.1 hc).1
    obtain ⟨b', hb', hbex⟩ := hblock k (hkm.trans hm)
    obtain ⟨c', hc', hcex⟩ := hblock m hm
    obtain rfl : b' = b := Option.some.inj (hb'.symm.trans hb)
    obtain rfl : c' = c := Option.some.inj (hc'.symm.trans hc)
    exact hbex.nested_or_behind hne hts hkm hcex

/-- A block that is closed without having been opened, and one inside of a block that is open. -/
def looseTags : List Token := [
  ⟨1, "block_begin", "\x7b%"⟩, ⟨1, "name", "stop"⟩, ⟨1, "block_end", "%\x7d"⟩,
  ⟨1, "block_begin", "\x7b%"⟩, ⟨1, "whitespace", " "⟩, ⟨1, "name", "go"⟩, ⟨1, "block_end", "%\x7d"⟩,
  ⟨1, "data", "a"⟩, ⟨1, "block_begin", "\x7b%"⟩, ⟨1, "name", "go"⟩, ⟨1, "block_end", "%\x7d"⟩,
  ⟨1, "data", "b"⟩, ⟨1, "block_begin", "\x7b%"⟩, ⟨1, "name", "stop"⟩, ⟨1, "block_end", "%\x7d"⟩]

theorem extract_eq_blocks_loose :
    "go" ≠ "stop" ∧ Tidy looseTags ∧ spansOf "go" "stop" looseTags = [⟨7, none⟩, ⟨11, some 12⟩] ∧
    Extracted "go" "stop" looseTags 0 ⟨7, none⟩ (extract looseTags 0 "go" "stop") ∧
    Extracted "go" "stop" looseTags 1 ⟨11, some 12⟩ (extract looseTags 1 "go" "stop") ∧
    (extract looseTags 2 "go" "stop").tokens = [] ∧
    (Span.mk 11 (some 12)).StrictlyInside looseTags ⟨7, none⟩ := by
  have hne : "go" ≠ "stop" := by decide
  have htidy : Tidy looseTags := by decide
  have hspans : spansOf "go" "stop" looseTags = [⟨7, none⟩, ⟨11, some 12⟩] := by decide
  obtain ⟨-, hnone, hsome, hnested⟩ := extract_eq_blocks "go" "stop" hne looseTags htidy
  obtain ⟨b, hb, hfirst⟩ := hsome 0 (by decide)
  obtain ⟨c, hc, hsecond⟩ := hsome 1 (by decide)
  rw [hspans] at hb hc
  cases hb
  cases hc
  refine ⟨hne, htidy, hspans, hfirst, hsecond, (hnone 2 (by decide)).1, ?_⟩
  exact (hnested 0 1 (by decide) _ _ (by rw [hspans]; rfl) (by rw [hspans]; rfl)).resolve_right
    (by decide)

end TemplateLint.Block
