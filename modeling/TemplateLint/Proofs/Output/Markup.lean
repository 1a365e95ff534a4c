import Mathlib.Data.List.TakeWhile
import TemplateLint.Output.Markup

/-!
The tags of marked-up text that have a meaning.

A text is shown if its live tags can be followed, so whether it is shown depends on them alone
(`shown_eq`). An escaped text has none, whatever it is made of. Its backslashes at the end can take
the meaning from the tag behind it, which is all that it does to the text around it. Main statement:
`inert_escape`.
-/

namespace TemplateLint.Output.Markup

/-! ### What is shown -/

/-- The inside of a tag with a meaning. -/
def Piece.live : Piece → List (List Char)
  | text _ => []
  | tag n inside => if n % 2 = 1 then [] else [inside]

/-- What is shown of a piece. -/
def Piece.plain : Piece → List Char
  | text cs => shownText cs
  | tag n inside =>
    List.replicate (n / 2) '\\' ++ if n % 2 = 1 then shownText (bracketed inside) else []

/-- Follows tags, given the ones that are open, and gives the styles. -/
def settle (opened : List Tag) : List (List Char) → Except Fault Unit
  | [] => checkStyles opened
  | inside :: tags => do
    let (opened, closed) ← follow opened inside
    settle opened tags
    checkStyles (closed.toList.filter (!·.isAction))

/-- Only live tags can keep pieces from being shown. -/
lemma shownPieces_eq (opened : List Tag) (ps : List Piece) :
    shownPieces opened ps =
      (settle opened (ps.flatMap Piece.live)).map fun _ => ps.flatMap Piece.plain := by
  induction ps generalizing opened with
  | nil => cases h : checkStyles opened <;> simp [shownPieces, settle, h, bind, Except.bind] <;> rfl
  | cons p ps ih =>
    cases p with
    | text cs =>
      simp only [shownPieces, ih, List.flatMap_cons, Piece.live, Piece.plain, List.nil_append]
      cases settle opened (ps.flatMap Piece.live) <;> rfl
    | tag n inside =>
      by_cases hn : n % 2 = 1
      · simp only [shownPieces, ih, List.flatMap_cons, Piece.live, Piece.plain, hn, if_true,
          List.nil_append]
        cases settle opened (ps.flatMap Piece.live) <;> rfl
      · simp only [shownPieces, ih, List.flatMap_cons, Piece.live, Piece.plain, hn, if_false,
          List.append_nil, List.singleton_append, settle]
        cases follow opened inside with
        | error f => rfl
        | ok r =>
          obtain ⟨now, closed⟩ := r
          simp only [bind, Except.bind]
          cases settle now (ps.flatMap Piece.live) with
          | error f => rfl
          | ok u =>
            simp only [Except.map]
            cases checkStyles (closed.toList.filter (!·.isAction)) <;> rfl

/-- A text without its live tags, as lines. -/
def plain (s : String) : String :=
  let cs := (pieces s.toList).flatMap Piece.plain
  let lines := (Text.split '\n' (cs.filter fun c => !isSilent c)).map Text.expandTabs
  String.ofList (lines.flatMap (· ++ ['\n']))

/-- The live tags of a text, of which `n` backslashes have been read. -/
def liveFrom (n : Nat) (cs : List Char) : List (List Char) :=
  (piecesFrom n cs).flatMap Piece.live

/-- **A text is shown without its live tags if they can be followed.** -/
theorem shown_eq (s : String) :
    shown s = (settle [] (liveFrom 0 s.toList)).map fun _ => plain s := by
  simp only [shown, shownPieces_eq, pieces, plain, liveFrom]
  cases settle [] ((piecesFrom 0 s.toList).flatMap Piece.live) <;> rfl

/-! ### Tags in a longer text -/

variable {n : Nat} {c : Char} {cs ds i rest : List Char}

lemma inside?_close (h : inside? cs = some (i, rest)) :
    inside? (i ++ ']' :: ds) = some (i, ds) := by
  induction cs generalizing i with
  | nil => simp [inside?] at h
  | cons c cs ih =>
    rw [inside?] at h
    split_ifs at h with hclose hopen
    · obtain ⟨rfl, rfl⟩ := Prod.mk.inj (Option.some.inj h)
      simp [inside?]
    · obtain ⟨⟨j, r⟩, hj, he⟩ := Option.map_eq_some_iff.1 h
      obtain ⟨rfl, rfl⟩ := Prod.mk.inj he
      simp [inside?, hclose, hopen, ih hj]

/-- A tag is the same tag before any other text. -/
lemma tag?_bracketed (h : tag? cs = some (i, rest)) :
    tag? (bracketed i ++ ds) = some (i, ds) := by
  unfold tag? at h
  split at h
  · rename_i c cs
    split_ifs at h with hc
    obtain ⟨⟨j, r⟩, hj, he⟩ := Option.map_eq_some_iff.1 h
    obtain ⟨rfl, rfl⟩ := Prod.mk.inj he
    simp [bracketed, tag?, hc, inside?_close hj]
  · simp at h

lemma inside?_replicate_append (n : Nat) (cs : List Char) :
    inside? (List.replicate n '\\' ++ cs) = none ↔ inside? cs = none := by
  induction n with
  | zero => rfl
  | succ n ih => simpa [List.replicate_succ, inside?] using ih

/-- Where no inside ends, no tag starts. -/
lemma tag?_open_eq_none_iff : tag? ('[' :: cs) = none ↔
    inside? cs = none ∨ ∃ d ds, cs = d :: ds ∧ startsTag d = false := by
  cases cs with
  | nil => simp [tag?, inside?]
  | cons d ds =>
    by_cases hd : startsTag d
    · have hclose : d ≠ ']' := by rintro rfl; exact absurd hd (by decide)
      have hopen : d ≠ '[' := by rintro rfl; exact absurd hd (by decide)
      simp [tag?, inside?, hd, hclose, hopen]
    · simp [tag?, hd]

lemma piecesFrom_of_tag? (h : tag? cs = some (i, rest)) :
    piecesFrom n cs = .tag n i :: piecesFrom 0 rest := by
  obtain rfl := tag?_eq h
  rw [bracketed, List.cons_append, List.cons_append] at h ⊢
  rw [piecesFrom, if_neg (by decide)]
  split
  · rename_i i' rest' heq
    obtain ⟨rfl, rfl⟩ := Prod.mk.inj (Option.some.inj (heq.symm.trans h))
    rfl
  · simp_all

section

variable {α : Type} {f : Piece → List α} {g : Char → List α} (hnil : f (.text []) = [])
  (hcons : ∀ c cs, f (.text (c :: cs)) = g c ++ f (.text cs))

include hnil hcons

lemma flatMap_consText (c : Char) (ps : List Piece) :
    (consText c ps).flatMap f = g c ++ ps.flatMap f := by
  cases ps with
  | nil => simp [consText, hcons, hnil]
  | cons p ps => cases p <;> simp [consText, hcons, hnil]

lemma flatMap_foldr_consText (cs : List Char) (ps : List Piece) :
    (cs.foldr consText ps).flatMap f = cs.flatMap g ++ ps.flatMap f := by
  induction cs with
  | nil => rfl
  | cons c cs ih =>
    rw [List.foldr_cons, flatMap_consText hnil hcons, ih, List.flatMap_cons, List.append_assoc]

/-- What is made of a text character by character is made of a character that starts no tag. -/
lemma flatMap_piecesFrom_cons (hc : c ≠ '\\') (h : tag? (c :: cs) = none) :
    (piecesFrom n (c :: cs)).flatMap f =
      (List.replicate n '\\').flatMap g ++ (g c ++ (piecesFrom 0 cs).flatMap f) := by
  rw [piecesFrom, if_neg hc]
  split
  · simp_all
  · rw [flatMap_foldr_consText hnil hcons, flatMap_consText hnil hcons]

end

/-! ### Live tags -/

@[simp] lemma liveFrom_nil (n : Nat) : liveFrom n [] = [] := by
  by_cases hn : n = 0 <;> simp [liveFrom, piecesFrom, hn, Piece.live]

@[simp] lemma liveFrom_backslash (n : Nat) (cs : List Char) :
    liveFrom n ('\\' :: cs) = liveFrom (n + 1) cs := by
  simp [liveFrom, piecesFrom]

lemma liveFrom_replicate_append (n m : Nat) (cs : List Char) :
    liveFrom n (List.replicate m '\\' ++ cs) = liveFrom (n + m) cs := by
  induction m generalizing n with
  | zero => rfl
  | succ m ih => rw [List.replicate_succ, List.cons_append, liveFrom_backslash, ih]; congr 1; omega

/-- A character that starts no tag takes no part in the tags behind it. -/
lemma liveFrom_cons (hc : c ≠ '\\') (h : tag? (c :: cs) = none) :
    liveFrom n (c :: cs) = liveFrom 0 cs := by
  rw [liveFrom, flatMap_piecesFrom_cons (g := fun _ => []) rfl (fun _ _ => rfl) hc h]
  simp [liveFrom]

lemma liveFrom_of_tag? (h : tag? cs = some (i, rest)) :
    liveFrom n cs = (if n % 2 = 1 then [] else [i]) ++ liveFrom 0 rest := by
  rw [liveFrom, piecesFrom_of_tag? h, List.flatMap_cons, Piece.live, liveFrom]

/-! ### Escaped text -/

/-- A text with its tags escaped, of which `n` backslashes have been read. -/
def escapedFrom (n : Nat) (cs : List Char) : List Char := (piecesFrom n cs).flatMap Piece.escaped

@[simp] lemma escapedFrom_nil (n : Nat) : escapedFrom n [] = List.replicate n '\\' := by
  by_cases hn : n = 0 <;> simp [escapedFrom, piecesFrom, hn, Piece.escaped]

@[simp] lemma escapedFrom_backslash (n : Nat) (cs : List Char) :
    escapedFrom n ('\\' :: cs) = escapedFrom (n + 1) cs := by
  simp [escapedFrom, piecesFrom]

lemma escapedFrom_of_tag? (h : tag? cs = some (i, rest)) :
    escapedFrom n cs =
      List.replicate (2 * n + 1) '\\' ++ (bracketed i ++ escapedFrom 0 rest) := by
  rw [escapedFrom, piecesFrom_of_tag? h, List.flatMap_cons, Piece.escaped, List.append_assoc,
    escapedFrom]

lemma escapedFrom_cons (hc : c ≠ '\\') (h : tag? (c :: cs) = none) :
    escapedFrom n (c :: cs) = List.replicate n '\\' ++ c :: escapedFrom 0 cs := by
  rw [escapedFrom, flatMap_piecesFrom_cons (g := fun c => [c]) rfl (fun _ _ => rfl) hc h]
  simp [escapedFrom]

/-- A text has ended, or starts with a backslash, a tag or another character. -/
lemma text_induction {P : Nat → List Char → Prop} (nil : ∀ n, P n [])
    (backslash : ∀ n cs, P (n + 1) cs → P n ('\\' :: cs))
    (tag : ∀ n cs i rest, tag? cs = some (i, rest) → P 0 rest → P n cs)
    (other : ∀ n c cs, c ≠ '\\' → tag? (c :: cs) = none → P 0 cs → P n (c :: cs))
    (n : Nat) (cs : List Char) : P n cs := by
  fun_induction piecesFrom n cs with
  | case1 => exact nil _
  | case2 n h => exact nil _
  | case3 n cs ih => exact backslash n cs ih
  | case4 n c cs hc inside rest h ih => exact tag n _ _ _ h ih
  | case5 n c cs hc h ih => exact other n c cs hc h ih

/-- Backslashes that have been read come first. -/
lemma exists_escapedFrom_of_pos (hn : 0 < n) (cs : List Char) :
    ∃ ds, escapedFrom n cs = '\\' :: ds := by
  obtain ⟨m, rfl⟩ := Nat.exists_eq_add_one.2 hn
  induction m, cs using text_induction with
  | nil m => exact ⟨_, by rw [escapedFrom_nil, List.replicate_succ]⟩
  | backslash m cs ih => rw [escapedFrom_backslash]; exact ih (by omega)
  | tag m cs i rest h ih =>
    exact ⟨_, by rw [escapedFrom_of_tag? h, List.replicate_succ, List.cons_append]⟩
  | other m c cs hc h ih =>
    exact ⟨_, by rw [escapedFrom_cons hc h, List.replicate_succ, List.cons_append]⟩

/-- An escaped text starts as the text does, or with a backslash. -/
lemma exists_escapedFrom_cons (c : Char) (cs : List Char) :
    ∃ ds, escapedFrom 0 (c :: cs) = c :: ds ∨ escapedFrom 0 (c :: cs) = '\\' :: ds := by
  by_cases hc : c = '\\'
  · obtain ⟨ds, hds⟩ := exists_escapedFrom_of_pos Nat.one_pos cs
    exact ⟨ds, .inr (by rw [hc, escapedFrom_backslash, hds])⟩
  · cases h : tag? (c :: cs) with
    | none => exact ⟨_, .inl (escapedFrom_cons hc h)⟩
    | some r => exact ⟨_, .inr (escapedFrom_of_tag? h)⟩

/-- Escaping a text ends no inside in it. -/
lemma inside?_escapedFrom (n : Nat) (hcs : inside? cs = none) (hds : inside? ds = none) :
    inside? (escapedFrom n cs ++ ds) = none := by
  induction n, cs using text_induction with
  | nil n => rwa [escapedFrom_nil, inside?_replicate_append]
  | backslash n cs ih =>
    rw [escapedFrom_backslash]
    exact ih (by simpa [inside?] using hcs)
  | tag n cs i rest h ih =>
    rw [escapedFrom_of_tag? h, List.append_assoc, inside?_replicate_append]
    simp [bracketed, inside?]
  | other n c cs hc h ih =>
    rw [escapedFrom_cons hc h, List.append_assoc, inside?_replicate_append, List.cons_append,
      inside?]
    rw [inside?] at hcs
    split_ifs at hcs ⊢
    · rfl
    · rw [ih (by simpa using hcs)]; rfl

/-- Escaping a text makes no tag of a bracket before it. -/
lemma tag?_escapedFrom (hcs : tag? ('[' :: cs) = none) (hds : inside? ds = none) :
    tag? ('[' :: (escapedFrom 0 cs ++ ds)) = none := by
  rw [tag?_open_eq_none_iff] at hcs ⊢
  rcases hcs with h | ⟨c, cs, rfl, hc⟩
  · exact .inl (inside?_escapedFrom 0 h hds)
  · obtain ⟨es, h | h⟩ := exists_escapedFrom_cons c cs
    · exact .inr ⟨c, es ++ ds, by rw [h, List.cons_append], hc⟩
    · exact .inr ⟨_, es ++ ds, by rw [h, List.cons_append], by decide⟩

/-- A text that has no live tag, and changes no tag behind it unless it ends in backslashes. -/
def Inert (cs : List Char) : Prop :=
  ∀ ds, inside? ds = none → ∃ k, liveFrom 0 (cs ++ ds) = liveFrom k ds

lemma inert_escapedFrom (n : Nat) (cs : List Char) : Inert (escapedFrom n cs) := by
  intro ds hds
  induction n, cs using text_induction with
  | nil n => exact ⟨n, by rw [escapedFrom_nil, liveFrom_replicate_append, Nat.zero_add]⟩
  | backslash n cs ih => rwa [escapedFrom_backslash]
  | tag n cs i rest h ih =>
    obtain ⟨k, hk⟩ := ih
    refine ⟨k, ?_⟩
    rw [escapedFrom_of_tag? h, List.append_assoc, List.append_assoc, liveFrom_replicate_append,
      liveFrom_of_tag? (tag?_bracketed h), if_pos (by omega), List.nil_append, hk]
  | other n c cs hc h ih =>
    obtain ⟨k, hk⟩ := ih
    refine ⟨k, ?_⟩
    have hnone : tag? (c :: (escapedFrom 0 cs ++ ds)) = none := by
      by_cases hopen : c = '['
      · subst hopen
        exact tag?_escapedFrom h hds
      · simp [tag?, hopen]
    rw [escapedFrom_cons hc h, List.append_assoc, liveFrom_replicate_append, List.cons_append,
      liveFrom_cons hc hnone, hk]

lemma closeBackslash_eq (cs : List Char) :
    ∃ n, closeBackslash cs = cs ++ List.replicate n '\\' := by
  unfold closeBackslash
  split
  · exact ⟨1, rfl⟩
  · split_ifs
    · exact ⟨0, by simp⟩
    · exact ⟨1, rfl⟩
  · exact ⟨0, by simp⟩

/-- **Escaped text has no live tag, whatever it is made of.** -/
theorem inert_escape (s : String) : Inert (escape s).toList := by
  intro ds hds
  obtain ⟨n, hn⟩ := closeBackslash_eq (escapedFrom 0 s.toList)
  have hinside := (inside?_replicate_append n ds).2 hds
  obtain ⟨k, hk⟩ := inert_escapedFrom 0 s.toList _ hinside
  refine ⟨k + n, ?_⟩
  rw [← liveFrom_replicate_append, ← hk, ← List.append_assoc, ← hn, escape, String.toList_ofList]
  rfl

/-! ### Text that can be shown -/

/-- A style with a normal name, which tags open and close by it. -/
structure IsStyle (style : List Char) : Prop where
  opens : tag? (bracketed style) = some (style, [])
  closes : tag? (bracketed ('/' :: style)) = some ('/' :: style, [])
  starts : style.head?.any Char.isLower = true
  trimmed : Text.trim style = style
  unequal : '=' ∉ style
  named : styleName style = .ok style
  sound : Tag.styleFault? ⟨style, none⟩ = none

/-- The tags have styles that are sound. -/
def Sound (opened : List Tag) : Prop := ∀ t ∈ opened, t.styleFault? = none

lemma checkStyles_of_sound {opened : List Tag} (h : Sound opened) :
    checkStyles opened = .ok () := by
  rw [checkStyles, List.findSome?_eq_none_iff.2 h]

namespace IsStyle

variable {style : List Char} {opened : List Tag}

lemma takeWhile_eq (h : IsStyle style) : style.takeWhile (· != '=') = style :=
  List.takeWhile_eq_self_iff.2 fun c hc => by
    rw [bne_iff_ne]
    rintro rfl
    exact h.unequal hc

lemma exists_eq_cons (h : IsStyle style) : ∃ c cs, style = c :: cs ∧ c.isLower = true := by
  cases style with
  | nil => exact absurd h.starts (by decide)
  | cons c cs => exact ⟨c, cs, rfl, by simpa using h.starts⟩

lemma isAction_eq_false (h : IsStyle style) : Tag.isAction ⟨style, none⟩ = false := by
  obtain ⟨c, cs, rfl, hc⟩ := h.exists_eq_cons
  simp only [Tag.isAction, List.head?_cons, beq_eq_false_iff_ne, ne_eq, Option.some.injEq]
  rintro rfl
  exact absurd hc (by decide)

/-- A tag with the name of a style opens it. -/
lemma follow_open (h : IsStyle style) :
    follow opened style = .ok (⟨style, none⟩ :: opened, none) := by
  have hdrop : style.dropWhile (· != '=') = [] :=
    List.dropWhile_eq_nil_iff.2 fun c hc => by
      rw [bne_iff_ne]
      rintro rfl
      exact h.unequal hc
  have htag : Tag.ofInside style = .ok ⟨style, none⟩ := by
    rw [Tag.ofInside, h.takeWhile_eq, h.named, hdrop]
    rfl
  obtain ⟨c, cs, rfl, hc⟩ := h.exists_eq_cons
  have hslash : c ≠ '/' := by rintro rfl; exact absurd hc (by decide)
  simp [follow, h.takeWhile_eq, htag, hslash, bind, Except.bind, pure, Except.pure]

/-- A closing tag with the name of the style that has been opened last closes it. -/
lemma follow_close (h : IsStyle style) :
    follow (⟨style, none⟩ :: opened) ('/' :: style) = .ok (opened, some ⟨style, none⟩) := by
  have hcloses : closes? (⟨style, none⟩ :: opened) style = .ok (some ⟨style, none⟩) := by
    obtain ⟨c, cs, rfl, hc⟩ := h.exists_eq_cons
    simp [closes?, h.trimmed, h.named, bind, Except.bind, pure, Except.pure]
  rw [follow, List.takeWhile_cons, if_pos (by decide), h.takeWhile_eq]
  simp [hcloses, h.isAction_eq_false, bind, Except.bind, pure, Except.pure]

lemma settle_open (h : IsStyle style) (tags : List (List Char)) :
    settle opened (style :: tags) = settle (⟨style, none⟩ :: opened) tags := by
  simp only [settle, h.follow_open, bind, Except.bind]
  cases settle (⟨style, none⟩ :: opened) tags <;> rfl

lemma settle_close (h : IsStyle style) (tags : List (List Char)) :
    settle (⟨style, none⟩ :: opened) (('/' :: style) :: tags) = settle opened tags := by
  have hchecked : checkStyles ([⟨style, none⟩].filter (!·.isAction)) = .ok () :=
    checkStyles_of_sound fun t ht => by
      rw [List.mem_singleton.1 (List.mem_filter.1 ht).1]
      exact h.sound
  simp only [settle, h.follow_close, bind, Except.bind, Option.toList_some]
  rw [hchecked]
  cases settle opened tags <;> rfl

end IsStyle

/-- The live tags of a text can be followed, whatever sound tags are open. -/
def Settles (cs : List Char) : Prop :=
  ∀ opened, Sound opened → settle opened (liveFrom 0 cs) = .ok ()

lemma shown_of_settles {s : String} (h : Settles s.toList) : shown s = .ok (plain s) := by
  rw [shown_eq, h [] (by simp [Sound])]
  rfl

lemma settles_nil : Settles [] := fun opened h => by
  rw [liveFrom_nil]
  exact checkStyles_of_sound h

lemma Inert.settles (h : Inert cs) : Settles cs := by
  intro opened hopened
  obtain ⟨k, hk⟩ := h [] rfl
  rw [List.append_nil, liveFrom_nil, ← liveFrom_nil 0] at hk
  rw [hk]
  exact settles_nil opened hopened

/-- A text without backslashes and opening brackets. -/
def Unmarked (cs : List Char) : Prop := ∀ c ∈ cs, c ≠ '\\' ∧ c ≠ '['

instance (cs : List Char) : Decidable (Unmarked cs) :=
  decidable_of_iff (cs.all fun c => c != '\\' && c != '[') (by simp [Unmarked])

lemma Unmarked.append (hcs : Unmarked cs) (hds : Unmarked ds) : Unmarked (cs ++ ds) :=
  List.forall_mem_append.2 ⟨hcs, hds⟩

lemma liveFrom_append (h : Unmarked cs) (ds : List Char) :
    liveFrom 0 (cs ++ ds) = liveFrom 0 ds := by
  induction cs with
  | nil => rfl
  | cons c cs ih =>
    obtain ⟨hc, hcs⟩ := List.forall_mem_cons.1 h
    rw [List.cons_append, liveFrom_cons hc.1 (by simp [tag?, hc.2]), ih hcs]

lemma Unmarked.inert (h : Unmarked cs) : Inert cs := fun ds _ => ⟨0, liveFrom_append h ds⟩

lemma Settles.append (hds : Settles ds) (hcs : Unmarked cs) : Settles (cs ++ ds) := by
  intro opened hopened
  rw [liveFrom_append hcs]
  exact hds opened hopened

/-- An inert text can be given a style. The tag that closes the style may have lost its meaning;
the style is then given up to the end. -/
lemma Settles.styled {style : List Char} (hds : Settles ds) (hstyle : IsStyle style)
    (hcs : Inert cs) :
    Settles (bracketed style ++ (cs ++ (bracketed ('/' :: style) ++ ds))) := by
  intro opened hopened
  have hsound : Sound (⟨style, none⟩ :: opened) := List.forall_mem_cons.2 ⟨hstyle.sound, hopened⟩
  obtain ⟨k, hk⟩ := hcs (bracketed ('/' :: style) ++ ds) (by simp [bracketed, inside?])
  rw [liveFrom_of_tag? (tag?_bracketed hstyle.opens), if_neg (by decide), List.singleton_append,
    hstyle.settle_open, hk, liveFrom_of_tag? (tag?_bracketed hstyle.closes)]
  by_cases hlost : k % 2 = 1
  · rw [if_pos hlost, List.nil_append]
    exact hds _ hsound
  · rw [if_neg hlost, List.singleton_append, hstyle.settle_close]
    exact hds _ hopened

end TemplateLint.Output.Markup
