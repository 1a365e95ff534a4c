import Mathlib.Data.List.TakeWhile
import Mathlib.Tactic.Lemma
import TemplateLint.Path

/-!
Paths and their text.

The text of a path has its names with slashes between them, so wherever it is cut at a slash there
are names on both sides (`joined_eq_append_iff`). A path whose names are names is read back from its
text, and a path that is read from a text has only such names. Main statement: `ofString_toString`.
-/

namespace TemplateLint

namespace Text

variable {sep : Char} {cs : List Char}

/-- The parts of a text are those of the library's splitting. -/
lemma split_eq_splitOn (sep : Char) (cs : List Char) : split sep cs = cs.splitOn sep := by
  fun_induction split sep cs with
  | case1 => rw [List.splitOn_nil]
  | case2 cs ih => simp [List.splitOn_cons_eq_if_modifyHead, ih]
  | case3 c cs hc hs ih => exact absurd hs (split_ne_nil sep cs)
  | case4 c cs hc part parts hs ih =>
    rw [hs] at ih
    simp [List.splitOn_cons_eq_if_modifyHead, hc, ← ih]

lemma split_append (sep : Char) (as bs : List Char) :
    split sep (as ++ sep :: bs) = split sep as ++ split sep bs := by
  simp only [split_eq_splitOn, List.splitOn_append_cons_self]

lemma split_intercalate {parts : List (List Char)} (h : ∀ part ∈ parts, sep ∉ part)
    (hparts : parts ≠ []) : split sep ([sep].intercalate parts) = parts := by
  rw [split_eq_splitOn, List.splitOn_intercalate sep h hparts]

/-- No part holds the character at which a text is cut. -/
lemma not_mem_of_mem_split {part : List Char} (h : part ∈ split sep cs) : sep ∉ part := by
  fun_induction split sep cs generalizing part with
  | case1 =>
    rw [List.mem_singleton.1 h]
    exact List.not_mem_nil
  | case2 cs ih =>
    rcases List.mem_cons.1 h with rfl | h
    · exact List.not_mem_nil
    · exact ih h
  | case3 c cs hc hs ih => exact absurd hs (split_ne_nil sep cs)
  | case4 c cs hc first later hs ih =>
    rw [hs] at ih
    rcases List.mem_cons.1 h with rfl | h
    · exact List.not_mem_cons_of_ne_of_not_mem (Ne.symm hc) (ih (.head _))
    · exact ih (.tail _ h)

end Text

namespace Path

/-- A name of a file or of a directory, or two dots. -/
def IsName (n : String) : Prop := n ≠ "" ∧ n ≠ "." ∧ '/' ∉ n.toList

instance : DecidablePred IsName := fun _ => inferInstanceAs (Decidable (_ ∧ _))

/-- Whether all names of a path are names. -/
def Normal (p : Path) : Prop := ∀ n ∈ p.names, IsName n

instance : DecidablePred Normal := fun _ => inferInstanceAs (Decidable (∀ _ ∈ _, _))

/-- Names with slashes between them. -/
def joined (ns : List String) : List Char := ['/'].intercalate (ns.map String.toList)

/-- The name of a path with names only has no slash in it. -/
lemma Normal.slash_not_mem_name {p : Path} (h : p.Normal) : '/' ∉ p.name.toList := by
  unfold name
  cases hlast : p.names.getLast? with
  | none => decide
  | some n => exact (h n (List.mem_of_getLast? hlast)).2.2

variable {cs as bs : List Char} {ns ms : List String} {n : String}

/-! ### Names with slashes between them -/

@[simp] lemma joined_singleton (n : String) : joined [n] = n.toList := by simp [joined]

lemma joined_cons (hns : ns ≠ []) : joined (n :: ns) = n.toList ++ '/' :: joined ns := by
  simp [joined, List.intercalate_cons_of_ne_nil, hns]

lemma joined_append (hms : ms ≠ []) (hns : ns ≠ []) :
    joined (ms ++ ns) = joined ms ++ '/' :: joined ns := by
  induction ms with
  | nil => exact absurd rfl hms
  | cons m ms ih =>
    by_cases hrest : ms = []
    · subst hrest
      rw [List.singleton_append, joined_cons hns, joined_singleton]
    · rw [List.cons_append, joined_cons (by simp [hrest]), joined_cons hrest, ih hrest]
      simp

lemma split_joined (h : ∀ n ∈ ns, '/' ∉ n.toList) (hns : ns ≠ []) :
    Text.split '/' (joined ns) = ns.map String.toList := by
  refine Text.split_intercalate ?_ (by simpa using hns)
  intro part hpart
  obtain ⟨n, hn, rfl⟩ := List.mem_map.1 hpart
  exact h n hn

/-- Names without slashes are told by their text. -/
lemma joined_inj (hns : ∀ n ∈ ns, '/' ∉ n.toList) (hms : ∀ n ∈ ms, '/' ∉ n.toList)
    (hns' : ns ≠ []) (hms' : ms ≠ []) : joined ns = joined ms ↔ ns = ms := by
  refine ⟨fun h => ?_, congrArg joined⟩
  have hsplit := congrArg (Text.split '/') h
  rw [split_joined hns hns', split_joined hms hms'] at hsplit
  exact (List.map_inj_right fun _ _ => String.toList_inj.1).1 hsplit

/-- **Before and behind a slash there are names.** -/
theorem joined_eq_append_iff (h : ∀ n ∈ ns, '/' ∉ n.toList) (hns : ns ≠ []) :
    joined ns = as ++ '/' :: bs ↔
      ∃ ms ls, ms ≠ [] ∧ ls ≠ [] ∧ ns = ms ++ ls ∧ as = joined ms ∧ bs = joined ls := by
  constructor
  · intro heq
    have hsplit := congrArg (Text.split '/') heq
    rw [split_joined h hns, Text.split_append, List.map_eq_append_iff] at hsplit
    obtain ⟨ms, ls, rfl, hms, hls⟩ := hsplit
    have hne : ∀ {xs : List String} {cs : List Char},
        xs.map String.toList = Text.split '/' cs → xs ≠ [] := by
      rintro xs cs hxs rfl
      exact Text.split_ne_nil '/' cs hxs.symm
    refine ⟨ms, ls, hne hms, hne hls, rfl, ?_, ?_⟩
    · rw [joined, hms, Text.join_split]
    · rw [joined, hls, Text.join_split]
  · rintro ⟨ms, ls, hms, hls, rfl, rfl, rfl⟩
    exact joined_append hms hls

/-- The text of a path that is not the path of the working directory. -/
lemma toList_toString {p : Path} (h : p.anchor ≠ .here ∨ p.names ≠ []) :
    p.toString.toList = p.anchor.text.toList ++ joined p.names := by
  have heq : p.toString = p.anchor.text ++ "/".intercalate p.names := by
    unfold toString
    split
    · next hanchor hnames => simp [hanchor, hnames] at h
    · rfl
  rw [heq, String.toList_append, String.toList_intercalate]
  rfl

/-! ### Names in a text -/

/-- A part of a text that is not dropped is a name. -/
lemma isName_iff {part : List Char} (h : '/' ∉ part) :
    IsName (String.ofList part) ↔ (part != [] && part != ['.']) := by
  simp [IsName, h, ← String.toList_inj]

lemma names_ofChars_slash (cs : List Char) : (ofChars ('/' :: cs)).names = (ofChars cs).names := by
  simp [ofChars, Text.split]

/-- Names joined by slashes are found again. -/
lemma names_ofChars_joined (h : ∀ n ∈ ns, IsName n) : (ofChars (joined ns)).names = ns := by
  by_cases hns : ns = []
  · rw [hns]
    rfl
  · have hkept : ∀ part ∈ ns.map String.toList, (part != [] && part != ['.']) := by
      rintro part hpart
      obtain ⟨n, hn, rfl⟩ := List.mem_map.1 hpart
      rw [← isName_iff (h n hn).2.2, String.ofList_toList]
      exact h n hn
    simp [ofChars, split_joined (fun n hn => (h n hn).2.2) hns, List.filter_eq_self.2 hkept]

/-- Names joined by slashes begin with no slash. -/
lemma head_joined (h : ∀ n ∈ ns, IsName n) : (joined ns).head? ≠ some '/' := by
  cases ns with
  | nil => simp [joined]
  | cons n ns =>
    obtain ⟨hempty, -, hslash⟩ := h n (.head _)
    obtain ⟨c, cs, hcs⟩ := List.exists_cons_of_ne_nil (mt String.toList_eq_nil_iff.1 hempty)
    rw [hcs] at hslash
    have hc : c ≠ '/' := fun heq => hslash (heq ▸ .head _)
    by_cases hns : ns = []
    · simpa [hns, hcs] using hc
    · simpa [joined_cons hns, hcs] using hc

lemma joined_ne_nil (h : ∀ n ∈ ns, IsName n) (hns : ns ≠ []) : joined ns ≠ [] := by
  obtain ⟨n, ms, rfl⟩ := List.exists_cons_of_ne_nil hns
  have hn : n ≠ "" := (h n (.head _)).1
  by_cases hms : ms = []
  · simpa [hms] using hn
  · simp [joined_cons hms]

/-- They end with no slash. -/
lemma getLast_joined (h : ∀ n ∈ ns, IsName n) : (joined ns).getLast? ≠ some '/' := by
  intro hlast
  obtain ⟨cs, hcs⟩ := List.getLast?_eq_some_iff.1 hlast
  have hns : ns ≠ [] := by
    rintro rfl
    simp [joined] at hcs
  obtain ⟨ms, ls, -, hls, rfl, -, hempty⟩ :=
    (joined_eq_append_iff (fun n hn => (h n hn).2.2) hns).1 hcs
  -- behind the slash there would be names without a character
  exact joined_ne_nil (fun n hn => h n (List.mem_append_right ms hn)) hls hempty.symm

/-- An anchor is found again in front of what begins with no slash. -/
lemma anchorOf_text (a : Anchor) (h : cs.head? ≠ some '/') :
    anchorOf (a.text.toList ++ cs) = a := by
  cases cs with
  | nil => cases a <;> rfl
  | cons c cs =>
    have hc : c ≠ '/' := fun heq => h (congrArg some heq)
    cases a <;> simp [anchorOf, Anchor.text, hc]

lemma names_ofChars_text (a : Anchor) (cs : List Char) :
    (ofChars (a.text.toList ++ cs)).names = (ofChars cs).names := by
  cases a with
  | here => rfl
  | root => exact names_ofChars_slash cs
  | doubleRoot => exact (names_ofChars_slash _).trans (names_ofChars_slash cs)

/-- **A path is read back from its text.** -/
theorem ofString_toString {p : Path} (h : p.Normal) : ofString p.toString = p := by
  obtain ⟨a, ns⟩ := p
  by_cases hdot : a = .here ∧ ns = []
  · obtain ⟨rfl, rfl⟩ := hdot
    decide
  · have htext : (toString ⟨a, ns⟩).toList = a.text.toList ++ joined ns :=
      toList_toString (Decidable.not_and_iff_or_not.1 hdot)
    have hanchor := anchorOf_text a (head_joined h)
    have hnames := (names_ofChars_text a _).trans (names_ofChars_joined h)
    rw [ofString, htext]
    exact (Path.mk.injEq ..).mpr ⟨hanchor, hnames⟩

/-- A path that is read has names only. -/
theorem normal_ofString (s : String) : (ofString s).Normal := by
  intro n hn
  obtain ⟨part, hpart, rfl⟩ := List.mem_map.1 hn
  obtain ⟨hpart, hkept⟩ := List.mem_filter.1 hpart
  rwa [isName_iff (Text.not_mem_of_mem_split hpart)]

/-! ### Suffixes -/

/-- The last dot of a name has something before it, and `rest` behind it. -/
def EndsIn (name : String) (rest : List Char) : Prop :=
  rest ≠ [] ∧ '.' ∉ rest ∧ ∃ stem ≠ [], name.toList = stem ++ '.' :: rest

/-- The suffix of a name: the last dot and what is behind it. A name has none if there is nothing
before its last dot or nothing behind it. -/
def IsSuffix (s name : String) : Prop :=
  (∃ rest, EndsIn name rest ∧ s.toList = '.' :: rest) ∨ (s = "" ∧ ∀ rest, ¬EndsIn name rest)

lemma splitName_of_dot {name : String} {stem rest : List Char} (hrest : '.' ∉ rest)
    (hname : name.toList = stem ++ '.' :: rest) :
    (splitName name).2 = if rest = [] ∨ stem = [] then "" else String.ofList ('.' :: rest) := by
  have hkept : ∀ c ∈ rest.reverse, (c != '.') = true := by
    intro c hc
    rw [bne_iff_ne]
    rintro rfl
    exact hrest (List.mem_reverse.1 hc)
  have htail : ((stem ++ '.' :: rest).reverse.takeWhile (· != '.')).reverse = rest := by
    rw [List.reverse_append, List.reverse_cons, List.append_assoc,
      List.takeWhile_append_of_pos hkept]
    simp
  have hlength : (stem ++ '.' :: rest).length = stem.length + (rest.length + 1) := by simp
  have hstem : (stem ++ '.' :: rest).take
      (stem.length + (rest.length + 1) - rest.length - 1) = stem := by
    rw [show stem.length + (rest.length + 1) - rest.length - 1 = stem.length by omega,
      List.take_left]
  have hlt : rest.length < stem.length + (rest.length + 1) := by omega
  simp only [splitName, hname, htail, hlength, hstem, hlt, decide_true, Bool.true_and]
  by_cases hempty : rest = [] <;> by_cases hfirst : stem = [] <;> simp [hempty, hfirst]

lemma splitName_of_not_mem {name : String} (h : '.' ∉ name.toList) : (splitName name).2 = "" := by
  have hkept : ∀ c ∈ name.toList.reverse, (c != '.') = true := by
    intro c hc
    rw [bne_iff_ne]
    rintro rfl
    exact h (List.mem_reverse.1 hc)
  have htail : name.toList.reverse.takeWhile (· != '.') = name.toList.reverse :=
    List.takeWhile_eq_self_iff.2 hkept
  simp [splitName, htail]

lemma EndsIn.suffix_eq {name : String} {rest : List Char} (h : EndsIn name rest) :
    (splitName name).2 = String.ofList ('.' :: rest) := by
  obtain ⟨hne, hrest, stem, hstem, hname⟩ := h
  rw [splitName_of_dot hrest hname, if_neg (by simp [hne, hstem])]

lemma suffix_eq_empty {name : String} (h : ∀ rest, ¬EndsIn name rest) :
    (splitName name).2 = "" := by
  by_cases hdot : '.' ∈ name.toList
  · obtain ⟨rest, stem, hname, hrest⟩ := List.eq_append_cons_of_mem (List.mem_reverse.2 hdot)
    have hname' : name.toList = stem.reverse ++ '.' :: rest.reverse := by
      rw [← List.reverse_inj, hname]
      simp
    have hrest' : '.' ∉ rest.reverse := fun hmem => hrest (List.mem_reverse.1 hmem)
    by_cases hempty : rest.reverse = [] ∨ stem.reverse = []
    · rw [splitName_of_dot hrest' hname', if_pos hempty]
    · rw [not_or] at hempty
      exact absurd ⟨hempty.1, hrest', _, hempty.2, hname'⟩ (h _)
  · exact splitName_of_not_mem hdot

/-- **The suffix of a path** is the one of its name. -/
theorem isSuffix_iff {p : Path} {s : String} : IsSuffix s p.name ↔ s = p.suffix := by
  unfold suffix
  constructor
  · rintro (⟨rest, hrest, hs⟩ | ⟨rfl, hnot⟩)
    · rw [hrest.suffix_eq, ← hs, String.ofList_toList]
    · rw [suffix_eq_empty hnot]
  · rintro rfl
    by_cases hends : ∃ rest, EndsIn p.name rest
    · obtain ⟨rest, hrest⟩ := hends
      exact .inl ⟨rest, hrest, by rw [hrest.suffix_eq, String.toList_ofList]⟩
    · have hnot := not_exists.1 hends
      exact .inr ⟨suffix_eq_empty hnot, hnot⟩

end Path

end TemplateLint
