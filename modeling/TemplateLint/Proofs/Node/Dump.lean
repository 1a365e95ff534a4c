import Mathlib
import TemplateLint.Proofs.Node.Position
import TemplateLint.Proofs.Path.Text

/-!
How a tree is built, told by its lines.

There is one line for each position of a tree, with two blanks before it for each level. A line
tells the depth, the place and the categories of its position, since neither the blank nor the colon
is in the name of a field and the comma is in no name of a category. So two trees with the same
lines have the same skeleton. A tree with a node that is too far down has no lines at all. Main
statement: `describe_faithful`.
-/

namespace TemplateLint

namespace Text

variable {sep : Char} {as bs cs ds : List Char}

/-- What is before the first occurrence of a character, and what is behind it. -/
lemma append_cons_inj (has : sep ∉ as) (hcs : sep ∉ cs) :
    as ++ sep :: bs = cs ++ sep :: ds ↔ as = cs ∧ bs = ds := by
  refine ⟨fun h => ?_, fun ⟨ha, hb⟩ => by rw [ha, hb]⟩
  induction as generalizing cs with
  | nil =>
    cases cs with
    | nil => exact ⟨rfl, (List.cons.inj h).2⟩
    | cons c cs => exact absurd (List.cons.inj h).1 (List.ne_of_not_mem_cons hcs)
  | cons a as ih =>
    cases cs with
    | nil => exact absurd (List.cons.inj h).1.symm (List.ne_of_not_mem_cons has)
    | cons c cs =>
      obtain ⟨rfl, hrest⟩ := List.cons.inj h
      obtain ⟨rfl, rfl⟩ := ih (List.not_mem_of_not_mem_cons has) (List.not_mem_of_not_mem_cons hcs)
        hrest
      exact ⟨rfl, rfl⟩

lemma replicate_append_inj {a b : Nat} (has : as.head? ≠ some sep) (hbs : bs.head? ≠ some sep) :
    List.replicate a sep ++ as = List.replicate b sep ++ bs ↔ a = b ∧ as = bs := by
  refine ⟨fun h => ?_, fun ⟨ha, hb⟩ => by rw [ha, hb]⟩
  induction a generalizing b with
  | zero =>
    cases b with
    | zero => exact ⟨rfl, h⟩
    | succ b =>
      have has' : as = sep :: (List.replicate b sep ++ bs) := h
      exact absurd (by rw [has', List.head?_cons]) has
  | succ a ih =>
    cases b with
    | zero =>
      have hbs' : bs = sep :: (List.replicate a sep ++ as) := h.symm
      exact absurd (by rw [hbs', List.head?_cons]) hbs
    | succ b =>
      obtain ⟨hab, hrest⟩ := ih (List.cons.inj h).2
      exact ⟨congrArg _ hab, hrest⟩

/-- Names without commas are told by what is joined from them with commas. -/
lemma intercalate_comma_inj {names names' : List String} (h : ∀ n ∈ names, ',' ∉ n.toList)
    (h' : ∀ n ∈ names', ',' ∉ n.toList) (hne : names ≠ []) (hne' : names' ≠ []) :
    ",".intercalate names = ",".intercalate names' ↔ names = names' := by
  refine ⟨fun heq => ?_, congrArg _⟩
  have hsplit : ∀ ns : List String, (∀ n ∈ ns, ',' ∉ n.toList) → ns ≠ [] →
      split ',' (",".intercalate ns).toList = ns.map String.toList := by
    intro ns hns hne
    rw [String.toList_intercalate]
    refine split_intercalate (fun part hpart => ?_) (by simpa using hne)
    obtain ⟨n, hn, rfl⟩ := List.mem_map.1 hpart
    exact hns n hn
  have hparts := hsplit names h hne
  rw [heq, hsplit names' h' hne'] at hparts
  exact (List.map_inj_right fun _ _ => String.toList_inj.1).1 hparts.symm

end Text

namespace Place

variable {p q : Place}

/-- A place has the name of a field: it is not empty, and has neither blanks nor colons. -/
structure Proper (p : Place) : Prop where
  ne_nil : p.field.toList ≠ []
  blank : ' ' ∉ p.field.toList
  colon : ':' ∉ p.field.toList

lemma proper_of_mem_fieldNames {k : Kind} (h : p.field ∈ k.fieldNames) : p.Proper := by
  have hall : ∀ k : Kind, ∀ name ∈ k.fieldNames,
      name.toList ≠ [] ∧ ' ' ∉ name.toList ∧ ':' ∉ name.toList := by
    intro k
    cases k <;> decide
  obtain ⟨hne, hblank, hcolon⟩ := hall k p.field h
  exact ⟨hne, hblank, hcolon⟩

lemma toList_text_none (field : String) :
    (⟨field, none⟩ : Place).text.toList = field.toList := rfl

lemma toList_text_some (field : String) (i : Nat) :
    (⟨field, some i⟩ : Place).text.toList = field.toList ++ ':' :: i.repr.toList := by
  simp only [text, String.toList_append, List.append_assoc]
  rfl

namespace Proper

lemma blank_not_mem_text (h : p.Proper) : ' ' ∉ p.text.toList := by
  obtain ⟨field, index⟩ := p
  cases index with
  | none => exact h.blank
  | some i =>
    have hdigits : ' ' ∉ i.repr.toList := by
      intro hmem
      rw [Nat.toList_repr] at hmem
      have hdigit := Nat.isDigit_of_mem_toDigits (by omega) (by omega) hmem
      exact absurd hdigit (by decide)
    rw [toList_text_some, List.mem_append, List.mem_cons, not_or, not_or]
    exact ⟨h.blank, by decide, hdigits⟩

lemma text_ne_nil (h : p.Proper) : p.text.toList ≠ [] := by
  obtain ⟨field, index⟩ := p
  cases index with
  | none => exact h.ne_nil
  | some i =>
    rw [toList_text_some]
    simp

lemma text_inj (hp : p.Proper) (hq : q.Proper) : p.text = q.text ↔ p = q := by
  refine ⟨fun h => ?_, congrArg text⟩
  obtain ⟨field, index⟩ := p
  obtain ⟨field', index'⟩ := q
  rw [← String.toList_inj] at h
  cases index with
  | none =>
    cases index' with
    | none =>
      rw [toList_text_none, toList_text_none, String.toList_inj] at h
      rw [h]
    | some i' =>
      rw [toList_text_none, toList_text_some] at h
      exact absurd (by simp [h]) hp.colon
  | some i =>
    cases index' with
    | none =>
      rw [toList_text_none, toList_text_some] at h
      exact absurd (by simp [← h]) hq.colon
    | some i' =>
      rw [toList_text_some, toList_text_some, Text.append_cons_inj hp.colon hq.colon,
        String.toList_inj, String.toList_inj, Nat.repr_inj] at h
      obtain ⟨rfl, rfl⟩ : field = field' ∧ i = i' := h
      rfl

end Proper

end Place

namespace Node

variable {t : CategoryTable} {n n' : Node} {label : String} {levels : Nat} {way : List Place}
  {o : Position} {p : Place}

/-- The ways of a tree with the categories at their ends: its shape, the places at its edges and
the categories of its nodes. -/
def skeleton (t : CategoryTable) (n : Node) : List (List Place × List String) :=
  n.positions.map fun o => (o.way, t.classify o.node.kind)

/-- **A skeleton is the root and the skeletons of the children**, each behind its place. -/
theorem skeleton_eq (t : CategoryTable) (n : Node) : n.skeleton t = ([], t.classify n.kind) ::
    n.placed.flatMap fun c => (c.2.skeleton t).map fun e => (c.1 :: e.1, e.2) := by
  rw [skeleton, positions_eq, List.map_cons, List.map_flatMap]
  congr 1
  refine List.flatMap_congr fun c _ => ?_
  rw [skeleton, List.map_map, List.map_map]
  rfl

/-- A tree whose lines can be read: no name of a category has a comma, and all nodes have
categories. -/
structure Legible (t : CategoryTable) (n : Node) : Prop where
  names : ∀ name ∈ t.names, ',' ∉ name.toList
  classified : ∀ o ∈ n.positions, t.classify o.node.kind ≠ []

lemma legible_standard (n : Node) : Legible .standard n where
  names := by decide
  classified o _ hnone := by
    have hnode : ("Node", [Kind.node]) ∈ CategoryTable.standard := List.mem_cons_self
    have hmem : "Node" ∈ CategoryTable.standard.classify o.node.kind :=
      List.mem_map.2 ⟨_, List.mem_filter.2 ⟨hnode, by simp [Kind.isA_node]⟩, rfl⟩
    rw [hnone] at hmem
    cases hmem

lemma Legible.root_ne_nil (h : Legible t n) : t.classify n.kind ≠ [] := by
  exact h.classified ⟨[], n⟩ (by simp [positions_eq n])

lemma comma_not_mem_classify (h : ∀ name ∈ t.names, ',' ∉ name.toList) (k : Kind) :
    ∀ name ∈ t.classify k, ',' ∉ name.toList := by
  intro name hname
  obtain ⟨e, he, rfl⟩ := List.mem_map.1 hname
  exact h _ (List.mem_map_of_mem (List.mem_filter.1 he).1)

/-! ### Lines -/

/-- What is before a line at some depth: two blanks for each level. -/
def indent (depth : Nat) : String := String.ofList (List.replicate (2 * depth) ' ')

/-- What is shown as the place at the end of a way; for the root it is given. -/
def shownPlace (label : String) (way : List Place) : String :=
  match way.getLast? with
  | none => label
  | some p => p.text

/-- The line of a node at the end of a way, with its categories. -/
def dumpLine (label : String) (e : List Place × List String) : String :=
  indent e.1.length ++ shownPlace label e.1 ++ ": " ++ ",".intercalate e.2

lemma indent_succ (depth : Nat) : indent (depth + 1) = indent depth ++ "  " := by
  rw [← String.toList_inj, String.toList_append]
  simp only [indent, String.toList_ofList, Nat.mul_add, List.replicate_add]
  rfl

lemma shownPlace_snoc (label : String) (way : List Place) (p : Place) :
    shownPlace label (way ++ [p]) = p.text := by
  rw [shownPlace, List.getLast?_concat]

lemma mapM_eq_some_map {α β : Type} {f : α → Option β} {g : α → β} {xs : List α}
    (h : ∀ x ∈ xs, f x = some (g x)) : xs.mapM f = some (xs.map g) := by
  induction xs with
  | nil => rfl
  | cons x xs ih =>
    obtain ⟨hx, hxs⟩ := List.forall_mem_cons.1 h
    rw [List.mapM_cons, hx, ih hxs]
    rfl

lemma mapM_eq_none {α β : Type} {f : α → Option β} {xs : List α} (h : ∃ x ∈ xs, f x = none) :
    xs.mapM f = none := by
  induction xs with
  | nil => simp at h
  | cons x xs ih =>
    rw [List.mapM_cons]
    cases hx : f x with
    | none => rfl
    | some y =>
      have hxs : ∃ x ∈ xs, f x = none := by simpa [hx] using h
      rw [ih hxs]
      rfl

lemma describeAt?_succ (hne : t.classify n.kind ≠ []) (levels : Nat) (way : List Place) :
    describeAt? t (levels + 1) (indent way.length) (shownPlace label way) n =
      (n.placed.mapM fun c => describeAt? t levels (indent (way ++ [c.1]).length)
        (shownPlace label (way ++ [c.1])) c.2).map fun lines =>
          dumpLine label (way, t.classify n.kind) :: lines.flatten := by
  have hbelow : (n.places.mapM fun c =>
      describeAt? t levels (indent way.length ++ "  ") c.1 c.2) =
        n.placed.mapM fun c => describeAt? t levels (indent (way ++ [c.1]).length)
          (shownPlace label (way ++ [c.1])) c.2 := by
    rw [places_eq, List.mapM_map]
    simp only [List.length_append, List.length_singleton, indent_succ, shownPlace_snoc]
    rfl
  rw [describeAt?, hbelow]
  cases hcs : t.classify n.kind with
  | nil => exact absurd hcs hne
  | cons name names => rfl

/-- **There is one line for each position**, if none is further down than the levels go. -/
theorem describeAt?_eq {height : Nat} (hheight : n.height ≤ height)
    (h : ∀ o ∈ positionsAt height way n, t.classify o.node.kind ≠ [])
    (hlevels : ∀ o ∈ positionsAt height way n, o.way.length < way.length + levels) :
    describeAt? t levels (indent way.length) (shownPlace label way) n =
      some ((positionsAt height way n).map
        fun o => dumpLine label (o.way, t.classify o.node.kind)) := by
  induction height generalizing levels way n with
  | zero => have := n.height_pos; omega
  | succ height ih =>
    have hroot : t.classify n.kind ≠ [] := h ⟨way, n⟩ List.mem_cons_self
    obtain ⟨levels, rfl⟩ : ∃ k, levels = k + 1 := by
      have hown : way.length < way.length + levels := hlevels ⟨way, n⟩ List.mem_cons_self
      exact ⟨levels - 1, by omega⟩
    have hchildren : ∀ c ∈ n.placed, describeAt? t levels (indent (way ++ [c.1]).length)
        (shownPlace label (way ++ [c.1])) c.2 = some ((positionsAt height (way ++ [c.1]) c.2).map
          fun o => dumpLine label (o.way, t.classify o.node.kind)) := by
      intro c hc
      have hlt := height_lt_of_mem_placed hc
      have hmem : ∀ o ∈ positionsAt height (way ++ [c.1]) c.2,
          o ∈ positionsAt (height + 1) way n :=
        fun o ho => List.mem_cons_of_mem _ (List.mem_flatMap.2 ⟨c, hc, ho⟩)
      refine ih (by omega) (fun o ho => h o (hmem o ho)) fun o ho => ?_
      have hdeep := hlevels o (hmem o ho)
      rw [List.length_append, List.length_singleton]
      omega
    rw [describeAt?_succ hroot, mapM_eq_some_map hchildren, positionsAt, List.map_cons,
      List.map_flatMap]
    rfl

/-- **There is no description** if a position is further down than the levels go. -/
theorem describeAt?_eq_none {height : Nat}
    (h : ∀ o ∈ positionsAt height way n, t.classify o.node.kind ≠ [])
    (hdeep : ∃ o ∈ positionsAt height way n, way.length + levels ≤ o.way.length) :
    describeAt? t levels (indent way.length) (shownPlace label way) n = none := by
  induction levels generalizing height way n with
  | zero => rfl
  | succ levels ih =>
    obtain ⟨o, ho, hdeep⟩ := hdeep
    cases height with
    | zero => cases ho
    | succ height =>
      have hroot : t.classify n.kind ≠ [] := h ⟨way, n⟩ List.mem_cons_self
      rcases List.mem_cons.1 ho with rfl | hbelow
      · have hown : way.length + (levels + 1) ≤ way.length := hdeep
        omega
      obtain ⟨c, hc, hbelow⟩ := List.mem_flatMap.1 hbelow
      have hchild : describeAt? t levels (indent (way ++ [c.1]).length)
          (shownPlace label (way ++ [c.1])) c.2 = none := by
        refine ih (fun o ho => h o (List.mem_cons_of_mem _ (List.mem_flatMap.2 ⟨c, hc, ho⟩)))
          ⟨o, hbelow, ?_⟩
        rw [List.length_append, List.length_singleton]
        omega
      rw [describeAt?_succ hroot, mapM_eq_none ⟨c, hc, hchild⟩]
      rfl

/-- No node of a tree is further down than a description through the given number of levels goes. -/
def Describable (levels : Nat) (n : Node) : Prop := ∀ o ∈ n.positions, o.way.length < levels

lemma describe?_eq (h : Legible t n) (hlevels : n.Describable levels) :
    n.describe? levels t label = some ((n.skeleton t).map (dumpLine label)) := by
  have hlines : describeAt? t levels (indent 0) (shownPlace label []) n = _ :=
    describeAt?_eq le_rfl h.classified (by simpa [Describable, positions] using hlevels)
  rw [skeleton, List.map_map]
  exact hlines

lemma describe?_eq_none (h : Legible t n) (hlevels : ¬n.Describable levels) :
    n.describe? levels t label = none := by
  have hdeep : ∃ o ∈ n.positions, ([] : List Place).length + levels ≤ o.way.length := by
    simpa [Describable] using hlevels
  exact describeAt?_eq_none h.classified hdeep

lemma describe?_eq_some_iff (h : Legible t n) {lines : List String} :
    n.describe? levels t label = some lines ↔
      n.Describable levels ∧ lines = (n.skeleton t).map (dumpLine label) := by
  by_cases hlevels : n.Describable levels
  · simp [describe?_eq h hlevels, hlevels, eq_comm]
  · simp [describe?_eq_none h hlevels, hlevels]

/-! ### Lines read back -/

lemma proper_of_mem_positions (ho : o ∈ n.positions) : ∀ p ∈ o.way, p.Proper := by
  refine position_induction (P := fun way _ => ∀ p ∈ way, p.Proper) (by simp) ?_ ho
  intro way n hway c hc p hp
  rcases List.mem_append.1 hp with hp | hp
  · exact hway p hp
  · obtain rfl := List.mem_singleton.1 hp
    exact Place.proper_of_mem_fieldNames (field_mem_of_mem_placed hc)

lemma toList_dumpLine (hlast : way.getLast? = some p) (cs : List String) :
    (dumpLine label (way, cs)).toList = List.replicate (2 * way.length) ' ' ++
      (p.text.toList ++ [':'] ++ ' ' :: (",".intercalate cs).toList) := by
  simp only [dumpLine, indent, shownPlace, hlast, String.toList_append, String.toList_ofList,
    List.append_assoc]
  rfl

/-- An entry below the root that can be read back from its line. -/
structure Readable (e : List Place × List String) : Prop where
  ne_nil : e.1 ≠ []
  proper : ∀ p ∈ e.1, p.Proper
  classified : e.2 ≠ []
  comma : ∀ name ∈ e.2, ',' ∉ name.toList

/-- **A line tells the depth, the last step and the categories.** -/
theorem dumpLine_inj {e e' : List Place × List String} (he : Readable e) (he' : Readable e')
    (h : dumpLine label e = dumpLine label e') :
    (e.1.length, e.1.getLast?) = (e'.1.length, e'.1.getLast?) ∧ e.2 = e'.2 := by
  obtain ⟨way, cs⟩ := e
  obtain ⟨way', cs'⟩ := e'
  have hlast := List.getLast?_eq_some_getLast he.ne_nil
  have hlast' := List.getLast?_eq_some_getLast he'.ne_nil
  have hp := he.proper _ (List.mem_of_getLast? hlast)
  have hp' := he'.proper _ (List.mem_of_getLast? hlast')
  set p := way.getLast he.ne_nil
  set p' := way'.getLast he'.ne_nil
  have hblank : ∀ q : Place, q.Proper → ' ' ∉ q.text.toList ++ [':'] := fun q hq => by
    simpa using hq.blank_not_mem_text
  have hhead : ∀ (q : Place) (rest : List Char), q.Proper →
      (q.text.toList ++ [':'] ++ rest).head? ≠ some ' ' := by
    intro q rest hq hhead
    obtain ⟨c, cs, hcs⟩ := List.exists_cons_of_ne_nil hq.text_ne_nil
    rw [hcs] at hhead
    have hc : c = ' ' := by simpa using hhead
    exact hq.blank_not_mem_text (by simp [hcs, hc])
  rw [← String.toList_inj, toList_dumpLine hlast, toList_dumpLine hlast',
    Text.replicate_append_inj (hhead p _ hp) (hhead p' _ hp'),
    Text.append_cons_inj (hblank p hp) (hblank p' hp'), List.append_cancel_right_eq,
    String.toList_inj, String.toList_inj, hp.text_inj hp',
    Text.intercalate_comma_inj he.comma he'.comma he.classified he'.classified] at h
  obtain ⟨hlength, hplace, hcs⟩ := h
  have hdepth : way.length = way'.length := Nat.mul_left_cancel two_pos hlength
  exact ⟨by rw [hdepth, hlast, hlast', hplace], hcs⟩

/-- Lists that are alike under one function are alike under another one that the first tells. -/
lemma map_eq_map_of_map_eq {α β γ : Type} {f : α → β} {g : α → γ} {xs ys : List α}
    (hfg : ∀ x ∈ xs, ∀ y ∈ ys, f x = f y → g x = g y) (h : xs.map f = ys.map f) :
    xs.map g = ys.map g := by
  induction xs generalizing ys with
  | nil =>
    obtain rfl := List.map_eq_nil_iff.1 h.symm
    rfl
  | cons x xs ih =>
    obtain ⟨y, ys, rfl, hhead, hrest⟩ := List.map_eq_cons_iff.1 h.symm
    rw [List.map_cons, List.map_cons, hfg x List.mem_cons_self y List.mem_cons_self hhead.symm,
      ih (fun x hx y hy => hfg x (List.mem_cons_of_mem _ hx) y (List.mem_cons_of_mem _ hy))
        hrest.symm]

lemma readable_of_mem_skeleton {e : List Place × List String} (h : Legible t n)
    (he : e ∈ n.skeleton t) (hne : e.1 ≠ []) : Readable e := by
  obtain ⟨o, ho, rfl⟩ := List.mem_map.1 he
  exact ⟨hne, proper_of_mem_positions ho, h.classified o ho, comma_not_mem_classify h.names _⟩

/-- The root comes first, and what comes then is below it, one way after the other. -/
lemma exists_skeleton_eq (h : Legible t n) : ∃ es, n.skeleton t = ([], t.classify n.kind) :: es ∧
    ([] :: es.map (·.1)).IsChain Follows ∧ ∀ e ∈ es, Readable e := by
  refine ⟨_, skeleton_eq t n, ?_, fun e he => ?_⟩
  · have hchain : (n.positions.map (·.way)).IsChain Follows := isChain_positionsAt
    have hways : n.positions.map (·.way) = (n.skeleton t).map (·.1) := by
      rw [skeleton, List.map_map]
      rfl
    rw [hways, skeleton_eq, List.map_cons] at hchain
    exact hchain
  · have hmem : e ∈ n.skeleton t := by
      rw [skeleton_eq]
      exact List.mem_cons_of_mem _ he
    obtain ⟨c, -, hc⟩ := List.mem_flatMap.1 he
    obtain ⟨e', -, rfl⟩ := List.mem_map.1 hc
    exact readable_of_mem_skeleton h hmem (List.cons_ne_nil _ _)

/-- **The lines tell the skeleton.** -/
theorem skeleton_eq_of_lines_eq (h : Legible t n) (h' : Legible t n')
    (hlines : (n.skeleton t).map (dumpLine label) = (n'.skeleton t).map (dumpLine label)) :
    n.skeleton t = n'.skeleton t := by
  obtain ⟨es, hes, hchain, hreadable⟩ := exists_skeleton_eq h
  obtain ⟨es', hes', hchain', hreadable'⟩ := exists_skeleton_eq h'
  rw [hes, hes', List.map_cons, List.map_cons] at hlines
  obtain ⟨hroot, hbelow⟩ := List.cons.inj hlines
  have hcategories : t.classify n.kind = t.classify n'.kind := by
    have hjoined : ",".intercalate (t.classify n.kind) = ",".intercalate (t.classify n'.kind) := by
      simpa [dumpLine, ← String.toList_inj] using hroot
    have hcommas := comma_not_mem_classify h.names
    exact (Text.intercalate_comma_inj (hcommas _) (hcommas _) h.root_ne_nil
      h'.root_ne_nil).1 hjoined
  have hentries : es.map (fun e => ((e.1.length, e.1.getLast?), e.2)) =
      es'.map fun e => ((e.1.length, e.1.getLast?), e.2) :=
    map_eq_map_of_map_eq (fun e he e' he' heq =>
      Prod.ext_iff.2 (dumpLine_inj (hreadable e he) (hreadable' e' he') heq)) hbelow
  have hways : es.map (·.1) = es'.map (·.1) := by
    refine ways_unique hchain hchain' ?_
    simpa [Function.comp_def] using congrArg (List.map (·.1)) hentries
  have hall : es.map (·.2) = es'.map (·.2) := by
    simpa [Function.comp_def] using congrArg (List.map (·.2)) hentries
  rw [hes, hes', hcategories]
  congr 1
  calc es = (es.map (·.1)).zip (es.map (·.2)) := List.zip_of_prod rfl rfl
    _ = (es'.map (·.1)).zip (es'.map (·.2)) := by rw [hways, hall]
    _ = es' := (List.zip_of_prod rfl rfl).symm

/-- What is to be known of the description of a tree. -/
structure Faithful (t : CategoryTable) (n : Node) (label : String) : Prop where
  /-- There is one line for each position, with its depth, its place and its categories … -/
  lines : ∀ levels, n.Describable levels →
    n.describe? levels t label = some ((n.skeleton t).map (dumpLine label))
  /-- … unless one is too far down; then there is no description. -/
  deep : ∀ levels, ¬n.Describable levels → n.describe? levels t label = none
  /-- The positions are the occurrences of nodes in the tree, in order. -/
  occurrences : n.positions.map (fun o => (o.way.length, o.node)) =
    n.occurrences.map fun o => (o.path.length, o.node)
  /-- Two trees have the same lines just if they have the same skeleton. -/
  determined : ∀ n' levels levels' lines lines', Legible t n' →
    n.describe? levels t label = some lines → n'.describe? levels' t label = some lines' →
    (lines = lines' ↔ n.skeleton t = n'.skeleton t)

/-- **The description of a tree is faithful**, for every tree and the categories that are used
unless others are given, and for all categories whose names have no commas and that every node of
the tree has one of. -/
theorem describe_faithful : (∀ n, Legible .standard n) ∧
    ∀ t n label, Legible t n → Faithful t n label := by
  refine ⟨legible_standard, fun t n label h => ⟨fun _ => describe?_eq h, fun _ =>
    describe?_eq_none h, map_positions n, fun n' levels levels' lines lines' h' hn hn' => ?_⟩⟩
  obtain ⟨-, rfl⟩ := (describe?_eq_some_iff h).1 hn
  obtain ⟨-, rfl⟩ := (describe?_eq_some_iff h').1 hn'
  exact ⟨skeleton_eq_of_lines_eq h h', fun hskeleton => by rw [hskeleton]⟩

/-- A template that extends another one. -/
def extending : Node :=
  .mk .template (some 1)
    [.list [.node (.mk .extend (some 1) [.node (.mk .const (some 1) [.text "base.html"])])]]

/-- The lines of a template that extends another one. Three levels are enough for it. -/
theorem describe_faithful_extending : Legible .standard extending ∧
    Faithful .standard extending rootPlace ∧ extending.Describable 3 ∧ extending.describe? 3 =
      some ["ROOT: Node,Root,NodeList",
        "  body:0: Node,Extends",
        "    template: Node,Value,Literal"] := by
  have hlegible := describe_faithful.1 extending
  have hfaithful := describe_faithful.2 .standard extending rootPlace hlegible
  have hlevels : extending.Describable 3 := by
    unfold Describable
    decide
  refine ⟨hlegible, hfaithful, hlevels, ?_⟩
  rw [hfaithful.lines 3 hlevels]
  rfl

/-- **Not every tree is described**: a sum with many signs is not. -/
theorem not_described_sum : Legible .standard (sum 4000) ∧
    ∀ levels ≤ 4000, (sum 4000).describe? levels = none := by
  refine ⟨legible_standard _, fun levels hlevels => describe?_eq_none (legible_standard _) ?_⟩
  intro hshallow
  obtain ⟨o, ho, -, hlength⟩ := exists_mem_occurrences_sum 4000
  have hmem : (o.path.length, o.node) ∈
      (sum 4000).positions.map fun o => (o.way.length, o.node) := by
    rw [map_positions]
    exact List.mem_map_of_mem ho
  obtain ⟨p, hp, hsame⟩ := List.mem_map.1 hmem
  have hlt := hshallow p hp
  have hdepth : p.way.length = o.path.length := congrArg Prod.fst hsame
  omega

end Node

end TemplateLint
