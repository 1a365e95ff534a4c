import Mathlib.Data.List.DropRight
import TemplateLint.Ignore
import TemplateLint.Proofs.Path.Order
import TemplateLint.Proofs.Path.Text
import TemplateLint.Proofs.Text.Glob

/-!
What the patterns of ignore files match.

The slashes of a pattern decide what it is compared with. A pattern that ends in a slash is compared
with the names of single directories, so it is of no use if there is another slash in it. Any other
pattern is compared with the whole path, where it may begin behind any slash if `**/` stands in
front of it, and where `/**` behind a directory stands for all that is below. Main statements:
`matches_anywhere_iff`, `anywhere_widens` and `matches_directory`.
-/

namespace TemplateLint.Pattern

open TemplateLint.Path TemplateLint.Text

variable {file base d : Path} {ns ms : List String} {name cs p : List Char}

/-! ### Slashes at the ends -/

lemma dropLeading_eq_self (h : cs.head? ≠ some '/') : dropLeading '/' cs = cs := by
  cases cs with
  | nil => rfl
  | cons c cs =>
    have hc : c ≠ '/' := fun heq => h (congrArg some heq)
    simp [dropLeading, hc]

lemma dropTrailing_eq_self (h : cs.getLast? ≠ some '/') : dropTrailing '/' cs = cs := by
  have hhead : cs.reverse.head? ≠ some '/' := by rwa [List.head?_reverse]
  rw [dropTrailing, dropLeading_eq_self hhead, List.reverse_reverse]

lemma dropTrailing_append_slash (cs : List Char) :
    dropTrailing '/' (cs ++ ['/']) = dropTrailing '/' cs :=
  List.rdropWhile_concat_pos _ _ _ rfl

/-- What does not consist of slashes only keeps what stands in front of it. -/
lemma dropTrailing_append (h : dropTrailing '/' p ≠ []) :
    dropTrailing '/' (cs ++ p) = cs ++ dropTrailing '/' p := by
  have hne : (p.reverse.dropWhile (· == '/')) ≠ [] := by simpa [dropTrailing, dropLeading] using h
  simp [dropTrailing, dropLeading, List.dropWhile_append, hne]

lemma dropTrailing_ne_nil (hne : p ≠ []) (h : p.head? ≠ some '/') : dropTrailing '/' p ≠ [] := by
  intro hnil
  obtain ⟨c, cs, rfl⟩ := List.exists_cons_of_ne_nil hne
  have hc : c = '/' := by simpa using List.rdropWhile_eq_nil_iff.1 hnil c (.head _)
  exact h (by simp [hc])

lemma bare_eq_self (hfirst : cs.head? ≠ some '/') (hlast : cs.getLast? ≠ some '/') :
    bare cs = cs := by
  rw [bare, dropTrailing_eq_self hlast, dropLeading_eq_self hfirst]

/-! ### Which comparison is made -/

lemma matches_below (base : Path) (ns : List String) (p : String) : Matches (base.below ns) p base =
    matchesAt ⟨.here, ns⟩ (base.below ns).name.toList p.toList := by
  rw [Matches, relativeTo?_below]

/-- Only what lies below its directory is matched by a pattern. -/
lemma exists_below_of_matches {p : String} (h : Matches file p base) :
    ∃ ns, file = base.below ns := by
  cases hrel : file.relativeTo? base with
  | none => simp [Matches, hrel] at h
  | some rel =>
    obtain ⟨ns, hfile, -⟩ := relativeTo?_eq_some_iff.1 hrel
    exact ⟨ns, hfile⟩

lemma matchesAt_of_slash {rel : Path} (hbang : p.head? ≠ some '!') (hlast : p.getLast? = some '/') :
    matchesAt rel name p ↔ ∃ part ∈ rel.parts.dropLast, Glob.Matches (bare p) part.toList := by
  unfold matchesAt
  simp only [hbang, hlast, if_false, if_true, List.any_eq_true]

/-- A pattern that may begin anywhere is compared as it is first, and then without its stars. -/
lemma matchesAt_anywhere {rel : Path} (hne : p ≠ []) (hlast : p.getLast? ≠ some '/') :
    matchesAt rel name ('*' :: '*' :: '/' :: p) ↔
      Glob.Matches ('*' :: '*' :: '/' :: p) rel.toString.toList ∨
        Glob.Matches ('*' :: '*' :: '/' :: p) name ∨ matchesAt rel name p := by
  have hlast' : ('*' :: '*' :: '/' :: p).getLast? ≠ some '/' := by
    obtain ⟨c, cs, rfl⟩ := List.exists_cons_of_ne_nil hne
    simpa [List.getLast?_cons_cons] using hlast
  conv_lhs => unfold matchesAt
  dsimp only
  rw [if_neg (by simp), if_neg hlast', if_neg (by simp)]
  simp only [Bool.if_true_left, Bool.or_eq_true, decide_eq_true_eq, or_assoc]

/-- A pattern for all that is below a directory is compared as it is first, and then its directory
is looked for at the beginning. -/
lemma matchesAt_below {rel : Path} (hp : p = cs ++ ['/', '*', '*']) (hbang : p.head? ≠ some '!')
    (hslash : p.head? ≠ some '/') (hstar : p.head? ≠ some '*') :
    matchesAt rel name p ↔ Glob.Matches p rel.toString.toList ∨ Glob.Matches p name ∨
      bare cs ++ ['/'] <+: rel.toString.toList := by
  have hlast : p.getLast? = some '*' := by
    rw [hp, List.getLast?_append]
    rfl
  have hsuffix : ['/', '*', '*'].isSuffixOf p :=
    List.isSuffixOf_iff_suffix.2 (hp ▸ List.suffix_append ..)
  have htake : p.take (p.length - 3) = cs := by
    rw [hp]
    exact List.take_left' (by simp)
  unfold matchesAt
  dsimp only
  rw [if_neg hbang, if_neg (by simp [hlast]), if_neg hslash, ← or_assoc, ← Bool.or_eq_true]
  cases Glob.Matches p rel.toString.toList || Glob.Matches p name with
  | true => simp
  | false =>
    simp only [Bool.false_eq_true, if_false, false_or]
    split
    · exact absurd rfl hstar
    · rw [if_pos hsuffix, htake, List.isPrefixOf_iff_prefix]

/-! ### Patterns that may begin anywhere -/

lemma isPlain_slash : Glob.IsPlain '/' := by decide

lemma toList_toString_here (hns : ns ≠ []) : (Path.toString ⟨.here, ns⟩).toList = joined ns :=
  toList_toString (.inr hns)

lemma name_below_mem (base : Path) (hns : ns ≠ []) : (base.below ns).name ∈ ns := by
  obtain ⟨ms, n, rfl⟩ := (List.eq_nil_or_concat ns).resolve_left hns
  rw [List.concat_eq_append, below_snoc, name_child]
  simp

/-- Two stars and a slash in front let a pattern begin behind any slash. -/
lemma matches_stars_slash (hnames : ∀ n ∈ ns, IsName n) (hns : ns ≠ []) :
    Glob.Matches ('*' :: '*' :: '/' :: p) (joined ns) ↔
      ∃ ms ls, ms ≠ [] ∧ ls ≠ [] ∧ ns = ms ++ ls ∧ Glob.Matches p (joined ls) := by
  rw [Glob.Matches_stars_plain isPlain_slash]
  constructor
  · rintro ⟨as, bs, heq, hmatch⟩
    obtain ⟨ms, ls, hms, hls, rfl, -, rfl⟩ :=
      (joined_eq_append_iff (fun n hn => (hnames n hn).2.2) hns).1 heq
    exact ⟨ms, ls, hms, hls, rfl, hmatch⟩
  · rintro ⟨ms, ls, hms, hls, rfl, hmatch⟩
    exact ⟨joined ms, joined ls, joined_append hms hls, hmatch⟩

lemma not_matches_stars_slash (h : '/' ∉ cs) : ¬Glob.Matches ('*' :: '*' :: '/' :: p) cs := by
  intro hmatch
  obtain ⟨as, bs, rfl, -⟩ := (Glob.Matches_stars_plain isPlain_slash).1 hmatch
  exact h (by simp)

/-- **What a pattern matches that may begin anywhere**: what it matches without its stars, and what
lies so below some directory between. -/
theorem matches_anywhere_iff {p : String} (hns : ns ≠ []) (hnames : ∀ n ∈ ns, IsName n)
    (hne : p ≠ "") (hlast : p.toList.getLast? ≠ some '/') :
    Matches (base.below ns) ("**/" ++ p) base ↔ Matches (base.below ns) p base ∨
      ∃ ms ls, ms ≠ [] ∧ ls ≠ [] ∧ ns = ms ++ ls ∧ globMatch p (Path.toString ⟨.here, ls⟩) := by
  have hpattern : ("**/" ++ p).toList = '*' :: '*' :: '/' :: p.toList := String.toList_append ..
  have hname : ¬Glob.Matches ('*' :: '*' :: '/' :: p.toList) (base.below ns).name.toList :=
    not_matches_stars_slash (hnames _ (name_below_mem base hns)).2.2
  have hpath : (∃ ms ls, ms ≠ [] ∧ ls ≠ [] ∧ ns = ms ++ ls ∧ Glob.Matches p.toList (joined ls)) ↔
      ∃ ms ls, ms ≠ [] ∧ ls ≠ [] ∧ ns = ms ++ ls ∧ globMatch p (Path.toString ⟨.here, ls⟩) := by
    refine exists_congr fun ms => exists_congr fun ls => and_congr_right fun _ =>
      and_congr_right fun hls => ?_
    rw [globMatch, toList_toString_here hls]
  rw [matches_below, matches_below, hpattern, matchesAt_anywhere (by simpa using hne) hlast,
    toList_toString_here hns, matches_stars_slash hnames hns, hpath]
  simp only [hname, Bool.false_eq_true, false_or]
  exact or_comm

/-- A pattern for directories matches nothing if it may begin anywhere: it is compared with single
names, and there is no name with a slash in it. -/
lemma not_matches_anywhere {p : String} (hnames : ∀ n ∈ ns, IsName n)
    (hfirst : p.toList.head? ≠ some '/') (hlast : p.toList.getLast? = some '/') :
    ¬Matches (base.below ns) ("**/" ++ p) base := by
  have hpattern : ("**/" ++ p).toList = ['*', '*', '/'] ++ p.toList := String.toList_append ..
  have hne : p.toList ≠ [] := by
    intro hnil
    simp [hnil] at hlast
  have hbare : bare (['*', '*', '/'] ++ p.toList) =
      '*' :: '*' :: '/' :: dropTrailing '/' p.toList := by
    rw [bare, dropTrailing_append (dropTrailing_ne_nil hne hfirst)]
    rfl
  have hlast' : (['*', '*', '/'] ++ p.toList).getLast? = some '/' := by
    rw [List.getLast?_append, hlast]
    rfl
  rw [matches_below, hpattern, matchesAt_of_slash (by simp) hlast', hbare]
  rintro ⟨part, hpart, hmatch⟩
  have hmem : part ∈ ns := List.dropLast_subset ns hpart
  exact not_matches_stars_slash (hnames part hmem).2.2 hmatch

lemma not_matches_empty (hns : ns ≠ []) (hnames : ∀ n ∈ ns, IsName n) :
    ¬Matches (base.below ns) "" base := by
  have hname : (base.below ns).name ≠ "" := (hnames _ (name_below_mem base hns)).1
  have hpath : joined ns ≠ [] := joined_ne_nil hnames hns
  rw [matches_below]
  unfold matchesAt
  simp [toList_toString_here hns, hpath, hname]

/-- **A pattern that may begin anywhere matches more, unless it is one for directories.** It matches
what it matches without its stars, and what lies so below a directory between. But a pattern that
ends in a slash matches nothing any more. -/
theorem anywhere_widens {p : String} (hns : ns ≠ []) (hnames : ∀ n ∈ ns, IsName n)
    (hfirst : p.toList.head? ≠ some '/') :
    (p.toList.getLast? ≠ some '/' → Matches (base.below ns) p base →
      Matches (base.below ns) ("**/" ++ p) base) ∧
    (p.toList.getLast? ≠ some '/' → p ≠ "" → Matches (base.below ns) ("**/" ++ p) base →
      Matches (base.below ns) p base ∨ ∃ ms ls, ms ≠ [] ∧ ls ≠ [] ∧ ns = ms ++ ls ∧
        globMatch p (Path.toString ⟨.here, ls⟩)) ∧
    (p.toList.getLast? = some '/' → ¬Matches (base.below ns) ("**/" ++ p) base) := by
  refine ⟨fun hlast h => ?_, fun hlast hne => (matches_anywhere_iff hns hnames hne hlast).1,
    not_matches_anywhere hnames hfirst⟩
  by_cases hne : p = ""
  · -- nothing is matched by the pattern without characters
    subst hne
    exact absurd h (not_matches_empty hns hnames)
  · exact (matches_anywhere_iff hns hnames hne hlast).2 (.inl h)

/-- A file that is three levels deep is matched at the last one, and by a pattern that may begin
anywhere too. -/
theorem anywhere_widens_deep :
    let dir : Path := ⟨.here, ["t"]⟩
    let file := dir.below ["a", "b", "x.html"]
    (Matches file "*.html" dir ∧ Matches file "**/*.html" dir) ∧
      (Matches file "a/" dir ∧ ¬Matches file "**/a/" dir) := by
  intro dir file
  have hnames : ∀ n ∈ ["a", "b", "x.html"], IsName n := by decide
  have hfile : Matches file "*.html" dir := rfl
  have hdirectory : Matches file "a/" dir := rfl
  have hwider : Matches file ("**/" ++ "*.html") dir :=
    (anywhere_widens (by simp) hnames (by decide)).1 (by decide) hfile
  have hnothing : ¬Matches file ("**/" ++ "a/") dir :=
    (anywhere_widens (by simp) hnames (by decide)).2.2 (by decide)
  exact ⟨⟨hfile, hwider⟩, hdirectory, hnothing⟩

/-- A pattern for directories that may begin anywhere does not match what it matches without its
stars. -/
theorem not_anywhere_widens :
    Matches ⟨.here, ["t", "d", "x.html"]⟩ "d/" ⟨.here, ["t"]⟩ = true ∧
      Matches ⟨.here, ["t", "d", "x.html"]⟩ "**/d/" ⟨.here, ["t"]⟩ = false :=
  ⟨rfl, rfl⟩

/-! ### Patterns for directories -/

/-- A directory that a pattern can name: it has names, and none of its characters is a wildcard. -/
structure IsNamed (d : Path) : Prop where
  relative : d.anchor = .here
  names_ne : d.names ≠ []
  normal : d.Normal
  plain : hasWildcard d.toString = false
  positive : d.toString.toList.head? ≠ some '!'

namespace IsNamed

lemma toList_toString (hd : IsNamed d) : d.toString.toList = joined d.names := by
  rw [Path.toList_toString (.inr hd.names_ne), hd.relative]
  rfl

lemma slash_not_mem (hd : IsNamed d) : ∀ n ∈ d.names, '/' ∉ n.toList :=
  fun n hn => (hd.normal n hn).2.2

lemma isPlain (hd : IsNamed d) : ∀ c ∈ joined d.names, Glob.IsPlain c := by
  intro c hc
  rw [← hd.toList_toString] at hc
  have hplain := List.any_eq_false.1 hd.plain c hc
  simpa [Glob.IsPlain, not_or, and_assoc] using hplain

lemma head_joined (hd : IsNamed d) :
    ∃ c cs, joined d.names = c :: cs ∧ c ≠ '!' ∧ c ≠ '/' ∧ c ≠ '*' := by
  obtain ⟨c, cs, hcs⟩ := List.exists_cons_of_ne_nil (joined_ne_nil hd.normal hd.names_ne)
  have hbang := hd.positive
  have hslash := Path.head_joined hd.normal
  rw [hd.toList_toString] at hbang
  rw [hcs] at hbang hslash
  exact ⟨c, cs, hcs, by simpa using hbang, by simpa using hslash,
    (hd.isPlain c (by simp [hcs])).1⟩

end IsNamed

lemma joined_append_slash_prefix_iff (hd : IsNamed d) (hnames : ∀ n ∈ ns, IsName n)
    (hns : ns ≠ []) :
    joined d.names ++ ['/'] <+: joined ns ↔ ∃ ls, ls ≠ [] ∧ ns = d.names ++ ls := by
  have hslash : ∀ n ∈ ns, '/' ∉ n.toList := fun n hn => (hnames n hn).2.2
  constructor
  · rintro ⟨rest, heq⟩
    rw [List.append_assoc, List.singleton_append] at heq
    obtain ⟨ms, ls, hms, hls, rfl, hd', -⟩ := (joined_eq_append_iff hslash hns).1 heq.symm
    have hms' : ∀ n ∈ ms, '/' ∉ n.toList := fun n hn => hslash n (List.mem_append_left ls hn)
    rw [joined_inj hd.slash_not_mem hms' hd.names_ne hms] at hd'
    exact ⟨ls, hls, by rw [hd']⟩
  · rintro ⟨ls, hls, rfl⟩
    refine ⟨joined ls, ?_⟩
    rw [List.append_assoc, List.singleton_append, joined_append hd.names_ne hls]

/-- **Two stars behind a directory match what is below the directory, and nothing else.** -/
theorem matches_allBelow_iff (hd : IsNamed d) (hfile : (base.below ns).Normal) :
    Matches (base.below ns) (d.toString ++ "/**") base ↔ ∃ ls, ls ≠ [] ∧ ns = d.names ++ ls := by
  obtain ⟨c, cs, hcs, hbang, hslash, hstar⟩ := hd.head_joined
  have hpattern : (d.toString ++ "/**").toList = joined d.names ++ ['/', '*', '*'] := by
    rw [String.toList_append, hd.toList_toString]
    rfl
  have hbare : bare (joined d.names) = joined d.names :=
    bare_eq_self (Path.head_joined hd.normal) (getLast_joined hd.normal)
  have hplain : ∀ c ∈ joined d.names ++ ['/'], Glob.IsPlain c := by
    rintro c hc
    rcases List.mem_append.1 hc with hc | hc
    · exact hd.isPlain c hc
    · rw [List.mem_singleton.1 hc]
      exact isPlain_slash
  -- the pattern itself stands for what begins with the directory and a slash
  have hglob : ∀ text, Glob.Matches (joined d.names ++ ['/', '*', '*']) text ↔
      joined d.names ++ ['/'] <+: text := by
    intro text
    have happend : Glob.Matches (joined d.names ++ ['/'] ++ ['*', '*']) text ↔ _ :=
      Glob.Matches_plain_append hplain
    rw [List.append_assoc] at happend
    rw [show joined d.names ++ ['/', '*', '*'] = joined d.names ++ (['/'] ++ ['*', '*']) from rfl,
      happend]
    constructor
    · rintro ⟨rest, rfl, -⟩
      exact List.prefix_append _ _
    · rintro ⟨rest, rfl⟩
      exact ⟨rest, rfl, Glob.Matches_stars rest⟩
  have hhead : (joined d.names ++ ['/', '*', '*']).head? = some c := by simp [hcs]
  rw [matches_below, hpattern, matchesAt_below rfl (by simpa [hhead] using hbang)
    (by simpa [hhead] using hslash) (by simpa [hhead] using hstar), hglob, hglob, hbare]
  have hname : ¬joined d.names ++ ['/'] <+: (base.below ns).name.toList := fun hstart =>
    hfile.slash_not_mem_name (hstart.subset (by simp))
  by_cases hns : ns = []
  · subst hns
    have hdot : ¬joined d.names ++ ['/'] <+: (Path.toString ⟨.here, []⟩).toList := by
      intro hstart
      have hmem : '/' ∈ (Path.toString ⟨.here, []⟩).toList := hstart.subset (by simp)
      exact absurd hmem (by decide)
    simp only [hname, hdot, or_self, false_iff, not_exists, not_and]
    intro ls hls heq
    exact hls (List.append_eq_nil_iff.1 heq.symm).2
  · have hnames : ∀ n ∈ ns, IsName n := fun n hn => hfile n (List.mem_append_right _ hn)
    rw [toList_toString_here hns]
    simp only [hname, false_or, or_self]
    exact joined_append_slash_prefix_iff hd hnames hns

lemma join_eq_below (h : d.anchor = .here) (base : Path) : base.join d = base.below d.names := by
  unfold join
  rw [h]
  rfl

/-- The directories above a file are the names with something behind them. -/
lemma mem_dropLast_iff {n : String} :
    n ∈ ns.dropLast ↔ ∃ ms ls, ls ≠ [] ∧ ns = ms ++ n :: ls := by
  constructor
  · intro hmem
    obtain ⟨ms, ls, hsplit⟩ := List.append_of_mem hmem
    have hns : ns ≠ [] := by
      rintro rfl
      cases hmem
    refine ⟨ms, ls ++ [ns.getLast hns], by simp, ?_⟩
    calc
      ns = ns.dropLast ++ [ns.getLast hns] := (List.dropLast_concat_getLast hns).symm
      _ = ms ++ n :: (ls ++ [ns.getLast hns]) := by rw [hsplit, List.append_assoc, List.cons_append]
  · rintro ⟨ms, ls, hls, rfl⟩
    rw [List.dropLast_append_of_ne_nil (by simp), List.dropLast_cons_of_ne_nil hls]
    simp

/-- **A slash behind a directory matches what is below a directory of that name**, at any level. If
the directory has several names, then nothing is matched. -/
theorem matches_slash_iff (hd : IsNamed d) (hfile : (base.below ns).Normal) :
    Matches (base.below ns) (d.toString ++ "/") base ↔
      ∃ ms ls, ls ≠ [] ∧ ns = ms ++ d.names ++ ls ∧ d.names.length = 1 := by
  obtain ⟨c, cs, hcs, hbang, -, -⟩ := hd.head_joined
  have hpattern : (d.toString ++ "/").toList = joined d.names ++ ['/'] := by
    rw [String.toList_append, hd.toList_toString]
    rfl
  have hbare : bare (joined d.names ++ ['/']) = joined d.names := by
    rw [bare, dropTrailing_append_slash]
    exact bare_eq_self (Path.head_joined hd.normal) (getLast_joined hd.normal)
  have hlast : (joined d.names ++ ['/']).getLast? = some '/' := List.getLast?_concat
  rw [matches_below, hpattern, matchesAt_of_slash (by simpa [hcs] using hbang) hlast, hbare]
  constructor
  · rintro ⟨part, hpart, hmatch⟩
    have hmem : part ∈ ns.dropLast := hpart
    have hslash : '/' ∉ part.toList :=
      (hfile part (List.mem_append_right _ (List.dropLast_subset ns hmem))).2.2
    -- a single name has the text of the directory, so it is its only name
    have hjoined : joined [part] = joined d.names := by
      rw [joined_singleton]
      exact (Glob.Matches_of_plain hd.isPlain).1 hmatch
    have hnames : [part] = d.names :=
      (joined_inj (by simpa using hslash) hd.slash_not_mem (by simp) hd.names_ne).1 hjoined
    obtain ⟨ms, ls, hls, rfl⟩ := mem_dropLast_iff.1 hmem
    exact ⟨ms, ls, hls, by simp [← hnames], by simp [← hnames]⟩
  · rintro ⟨ms, ls, hls, rfl, hlength⟩
    obtain ⟨part, hpart⟩ := List.length_eq_one_iff.1 hlength
    have hmatch : part.toList = joined d.names := by rw [hpart, joined_singleton]
    refine ⟨part, mem_dropLast_iff.2 ⟨ms, ls, hls, ?_⟩, ?_⟩
    · change ms ++ d.names ++ ls = _
      rw [hpart, List.append_assoc, List.singleton_append]
    · exact (Glob.Matches_of_plain hd.isPlain).2 hmatch

/-- **Patterns for a directory.** With two stars behind its slash a directory matches exactly what
is below it, and with the slash alone what is below any directory of its name. But a directory of
several names matches nothing with the slash alone, not even what is below it. -/
theorem matches_directory (hd : IsNamed d) (hfile : file.Normal) (base : Path) :
    (Matches file (d.toString ++ "/**") base ↔
      ∃ ls, ls ≠ [] ∧ file = (base.join d).below ls) ∧
    (Matches file (d.toString ++ "/") base ↔ d.names.length = 1 ∧
      ∃ ms ls, ls ≠ [] ∧ file = ((base.below ms).join d).below ls) := by
  simp only [join_eq_below hd.relative, ← below_append]
  constructor
  · constructor
    · intro h
      obtain ⟨ns, rfl⟩ := exists_below_of_matches h
      obtain ⟨ls, hls, rfl⟩ := (matches_allBelow_iff hd hfile).1 h
      exact ⟨ls, hls, rfl⟩
    · rintro ⟨ls, hls, rfl⟩
      exact (matches_allBelow_iff hd hfile).2 ⟨ls, hls, rfl⟩
  · constructor
    · intro h
      obtain ⟨ns, rfl⟩ := exists_below_of_matches h
      obtain ⟨ms, ls, hls, rfl, hlength⟩ := (matches_slash_iff hd hfile).1 h
      exact ⟨hlength, ms, ls, hls, rfl⟩
    · rintro ⟨hlength, ms, ls, hls, rfl⟩
      exact (matches_slash_iff hd hfile).2 ⟨ms, ls, hls, rfl, hlength⟩

/-- A directory of two names hides what is below it, and not what is next to it. -/
theorem matches_directory_nested :
    let d : Path := ⟨.here, ["build", "out"]⟩
    let base : Path := ⟨.here, ["t"]⟩
    IsNamed d ∧ Matches ((base.join d).below ["a", "x.html"]) "build/out/**" base ∧
      ¬Matches (base.below ["build", "output", "x.html"]) "build/out/**" base ∧
      Matches (base.below ["a", "out", "x.html"]) "out/" base := by
  intro d base
  have hd : IsNamed d := ⟨rfl, by simp [d], by decide, by decide, by decide⟩
  have hout : IsNamed ⟨.here, ["out"]⟩ := ⟨rfl, by simp, by decide, by decide, by decide⟩
  have hfile : ((base.join d).below ["a", "x.html"]).Normal := by decide
  have hother : (base.below ["build", "output", "x.html"]).Normal := by decide
  have hdeep : (base.below ["a", "out", "x.html"]).Normal := by decide
  have hinside := matches_directory hd hfile base
  have hbeside := matches_directory hd hother base
  have hdeeper := matches_directory hout hdeep base
  refine ⟨hd, hinside.1.2 ⟨["a", "x.html"], by simp, rfl⟩, fun h => ?_,
    hdeeper.2.2 ⟨rfl, ["a"], ["x.html"], by simp, rfl⟩⟩
  obtain ⟨ls, -, heq⟩ := hbeside.1.1 h
  have hnames : ["build", "output", "x.html"] = ["build", "out"] ++ ls := base.below_injective heq
  simp at hnames

/-- A directory of two names does not hide what is below it if only a slash is behind it. -/
theorem not_matches_directory_slash :
    let d : Path := ⟨.here, ["a", "b"]⟩
    let base : Path := ⟨.here, ["t"]⟩
    Matches ((base.join d).below ["x.html"]) "a/b/**" base = true ∧
      Matches ((base.join d).below ["x.html"]) "a/b/" base = false :=
  ⟨rfl, rfl⟩

end TemplateLint.Pattern
