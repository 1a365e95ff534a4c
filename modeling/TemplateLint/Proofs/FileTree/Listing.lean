import TemplateLint.FileTree.Glob
import TemplateLint.Proofs.FileTree.Find

/-!
What is listed below a directory.

The names in a directory are those under which something is found, so the paths that are listed
below a directory are those under which something is found, each of them once. None of this depends
on the order of the entries, and the lists are sorted. Main statements: `mem_filesBelow`,
`pairwise_filesBelow` and `mem_select_everywhere`.
-/

namespace TemplateLint

open TemplateLint.Path

namespace FileTree

/-- A tree has one entry for each of its places. -/
def Sound (t : FileTree) : Prop := (t.entries.map (·.1)).Nodup

variable {t t' : FileTree} {p q d dir : Path} {c : Content} {n : String} {ns ms : List String}

lemma at?_eq_some_iff (ht : t.Sound) : t.at? p = some c ↔ (p, c) ∈ t.entries := by
  unfold at?
  rw [Option.map_eq_some_iff]
  constructor
  · rintro ⟨e, he, rfl⟩
    have hp : e.1 = p := by simpa using List.find?_some he
    obtain rfl := hp
    exact List.mem_of_find?_eq_some he
  · intro hmem
    cases hfind : t.entries.find? (·.1 == p) with
    | none => exact absurd (List.find?_eq_none.1 hfind _ hmem) (by simp)
    | some e =>
      have hp : e.1 = p := by simpa using List.find?_some hfind
      have he := List.mem_of_find?_eq_some hfind
      have hsame : e = (p, c) := List.inj_on_of_nodup_map ht he hmem hp
      exact ⟨e, rfl, by rw [hsame]⟩

lemma sound_set (ht : t.Sound) (q : Path) (c : Content) : (t.set q c).Sound := by
  have hrest : ((t.entries.filter fun e => e.1 != q).map (·.1)).Nodup :=
    ht.sublist (List.filter_sublist.map _)
  unfold Sound set
  rw [List.map_append, List.nodup_append']
  refine ⟨hrest, List.nodup_singleton q, ?_⟩
  rw [List.map_singleton, List.disjoint_singleton]
  intro hmem
  obtain ⟨e, he, heq⟩ := List.mem_map.1 hmem
  have hne := (List.mem_filter.1 he).2
  simp [heq] at hne

lemma isSome_at?_iff : (t.at? p).isSome ↔ p ∈ t.entries.map (·.1) := by
  unfold at?
  rw [Option.isSome_map, List.find?_isSome, List.mem_map]
  simp

lemma isIn_iff : isIn q d ↔ ∃ n, n ≠ ".." ∧ q = d.child n := by
  unfold isIn
  constructor
  · intro h
    simp only [Bool.and_eq_true, Bool.not_eq_true', List.isEmpty_eq_false_iff, beq_iff_eq,
      bne_iff_ne] at h
    obtain ⟨⟨hne, rfl⟩, hn⟩ := h
    exact ⟨q.name, hn, (child_name_parent hne).symm⟩
  · rintro ⟨n, hn, rfl⟩
    simp [hn]

/-- The names in a directory, given its place. -/
lemma names_eq (h : t.LeadsTo p d) :
    t.names p = (t.entries.filter fun e => isIn e.1 d).map (·.1.name) := by
  unfold names
  rw [show t.find p = .ok (d, .directory) from h]

/-- **The names in a directory are those under which something is found there.** -/
theorem mem_names : n ∈ t.names p ↔ n ≠ ".." ∧ t.holds (p.child n) := by
  constructor
  · intro hmem
    by_cases hp : ∃ d, t.LeadsTo p d
    · obtain ⟨d, hd⟩ := hp
      rw [names_eq hd] at hmem
      obtain ⟨e, he, rfl⟩ := List.mem_map.1 hmem
      obtain ⟨hentry, hin⟩ := List.mem_filter.1 he
      obtain ⟨n, hn, hchild⟩ := isIn_iff.1 hin
      rw [hchild, name_child]
      refine ⟨hn, (holds_child_iff hd hn).2 (isSome_at?_iff.2 ?_)⟩
      rw [← hchild]
      exact List.mem_map_of_mem hentry
    · have hnone : t.names p = [] := by
        unfold names
        split
        · next d hd => exact absurd ⟨d, hd⟩ hp
        · rfl
      rw [hnone] at hmem
      cases hmem
  · rintro ⟨hn, hholds⟩
    have hholds' : t.holds (p.below ([] ++ [n])) := hholds
    obtain ⟨d, hd⟩ := isDirectory_iff.1 (isDirectory_of_holds (by simp) hholds')
    rw [below_nil] at hd
    obtain ⟨e, he, hchild⟩ := List.mem_map.1 (isSome_at?_iff.1 ((holds_child_iff hd hn).1 hholds))
    rw [names_eq hd]
    refine List.mem_map.2 ⟨e, List.mem_filter.2 ⟨he, isIn_iff.2 ⟨n, hn, hchild⟩⟩, ?_⟩
    rw [hchild, name_child]

lemma nodup_names (ht : t.Sound) (p : Path) : (t.names p).Nodup := by
  by_cases hp : ∃ d, t.LeadsTo p d
  · obtain ⟨d, hd⟩ := hp
    rw [names_eq hd]
    have hpaths : ((t.entries.filter fun e => isIn e.1 d).map (·.1)).Nodup :=
      ht.sublist (List.filter_sublist.map _)
    -- the paths in one directory are told apart by their names
    have hchildren : ((t.entries.filter fun e => isIn e.1 d).map (·.1)) =
        ((t.entries.filter fun e => isIn e.1 d).map (·.1.name)).map d.child := by
      rw [List.map_map]
      refine List.map_congr_left fun e he => ?_
      obtain ⟨n, -, hchild⟩ := isIn_iff.1 (List.mem_filter.1 he).2
      rw [Function.comp_apply, hchild, name_child]
    rw [hchildren] at hpaths
    exact hpaths.of_map
  · unfold names
    split
    · next d hd => exact absurd ⟨d, hd⟩ hp
    · exact List.nodup_nil

/-! ### Directories -/

lemma le_foldl_max (xs : List Nat) (m : Nat) :
    m ≤ xs.foldl max m ∧ ∀ x ∈ xs, x ≤ xs.foldl max m := by
  induction xs generalizing m with
  | nil => simp
  | cons x xs ih =>
    obtain ⟨hm, hxs⟩ := ih (max m x)
    rw [List.foldl_cons]
    refine ⟨le_trans (le_max_left m x) hm, fun y hy => ?_⟩
    rcases List.mem_cons.1 hy with rfl | hy
    · exact le_trans (le_max_right m y) hm
    · exact hxs y hy

/-- What is found lies within the depth of the tree. -/
lemma length_le_depth (hp : t.LeadsTo p d) (hns : Downward ns) (h : t.holds (p.below ns)) :
    ns.length ≤ t.depth := by
  rcases List.eq_nil_or_concat ns with rfl | ⟨ms, n, rfl⟩
  · exact Nat.zero_le _
  · obtain ⟨q, c, hfind⟩ := holds_iff.1 h
    have hq := place_below hp hns hfind
    rw [find_below hp] at hfind
    have hplace := follow_place hfind
    rw [hq, List.concat_eq_append, below_snoc, follow_nil_child] at hplace
    have hat : (t.at? ((d.below ms).child n)).isSome := by
      cases hat : t.at? ((d.below ms).child n) with
      | none =>
        rw [hat] at hplace
        cases hplace
      | some c => rfl
    obtain ⟨e, he, hpath⟩ := List.mem_map.1 (isSome_at?_iff.1 hat)
    have hdepth : e.1.names.length ≤ t.depth :=
      (le_foldl_max _ 0).2 _ (List.mem_map.2 ⟨e, he, rfl⟩)
    have hlength : e.1.names.length = d.names.length + (ms.length + 1) := by
      rw [hpath]
      simp
    rw [List.concat_eq_append, List.length_append, List.length_singleton]
    omega

/-- **The directories below a path**, down to some level. -/
theorem mem_directoriesFrom {levels : Nat} (hp : t.isDirectory p) :
    q ∈ t.directoriesFrom levels p ↔ ∃ ns, ns.length ≤ levels ∧ Downward ns ∧ q = p.below ns ∧
      t.isDirectory q := by
  induction levels generalizing p q with
  | zero =>
    simp only [directoriesFrom, List.mem_singleton, Nat.le_zero, List.length_eq_zero_iff]
    constructor
    · rintro rfl
      exact ⟨[], rfl, by simp [Downward], (below_nil q).symm, hp⟩
    · rintro ⟨ns, rfl, -, rfl, -⟩
      exact below_nil p
  | succ levels ih =>
    rw [directoriesFrom, List.mem_cons, List.mem_flatMap]
    constructor
    · rintro (rfl | ⟨c, hc, hq⟩)
      · exact ⟨[], by simp, by simp [Downward], (below_nil q).symm, hp⟩
      · obtain ⟨n, hn, rfl⟩ := List.mem_map.1 hc
        split_ifs at hq with hchild
        · obtain ⟨ns, hlength, hns, rfl, hq⟩ := (ih hchild).1 hq
          refine ⟨n :: ns, by simpa using hlength, ?_, (below_cons p n ns).symm, hq⟩
          exact List.forall_mem_cons.2 ⟨(mem_names.1 hn).1, hns⟩
        · cases hq
    · rintro ⟨ns, hlength, hns, rfl, hq⟩
      cases ns with
      | nil => exact .inl (below_nil p)
      | cons n ns =>
        obtain ⟨hn, hns⟩ := List.forall_mem_cons.1 hns
        have hholds : t.holds (p.below (n :: ns)) := by
          obtain ⟨d, hd⟩ := isDirectory_iff.1 hq
          exact holds_iff.2 ⟨d, _, hd⟩
        have hchild : t.isDirectory (p.child n) := by
          cases ns with
          | nil => exact hq
          | cons m ns =>
            have hholds' : t.holds (p.below ([n] ++ m :: ns)) := hholds
            exact isDirectory_of_holds (by simp) hholds'
        have hname : n ∈ t.names p := by
          obtain ⟨d, hd⟩ := isDirectory_iff.1 hchild
          exact mem_names.2 ⟨hn, holds_iff.2 ⟨d, _, hd⟩⟩
        refine .inr ⟨p.child n, List.mem_map_of_mem hname, ?_⟩
        rw [if_pos hchild, below_cons, ih hchild]
        rw [below_cons] at hq
        exact ⟨ns, by simpa using hlength, hns, rfl, hq⟩

/-- A directory is listed once. -/
lemma nodup_directoriesFrom (ht : t.Sound) (levels : Nat) (hp : t.isDirectory p) :
    (t.directoriesFrom levels p).Nodup := by
  induction levels generalizing p with
  | zero => exact List.nodup_singleton p
  | succ levels ih =>
    rw [directoriesFrom, List.nodup_cons, List.nodup_flatMap]
    -- what is listed for a child lies below the child
    have hbelow : ∀ n q, q ∈ (if t.isDirectory (p.child n) then
        t.directoriesFrom levels (p.child n) else []) → ∃ ns, q = p.below (n :: ns) := by
      intro n q hq
      split_ifs at hq with hchild
      · obtain ⟨ns, -, -, rfl, -⟩ := (mem_directoriesFrom hchild).1 hq
        exact ⟨ns, (below_cons p n ns).symm⟩
      · cases hq
    refine ⟨fun hmem => ?_, fun c hc => ?_, ?_⟩
    · obtain ⟨c, hc, hq⟩ := List.mem_flatMap.1 hmem
      obtain ⟨n, -, rfl⟩ := List.mem_map.1 hc
      obtain ⟨ns, hself⟩ := hbelow n p hq
      exact absurd (below_eq_self_iff.1 hself.symm) (List.cons_ne_nil n ns)
    · split_ifs with hchild
      · exact ih hchild
      · exact List.nodup_nil
    · rw [List.pairwise_map]
      refine (nodup_names ht p).imp fun {n m} hne q hn hm => ?_
      obtain ⟨ns, rfl⟩ := hbelow n q hn
      obtain ⟨ms, hsame⟩ := hbelow m _ hm
      exact hne (List.cons.inj (p.below_injective hsame)).1

/-! ### Files -/

/-- What is listed at all levels before it is filtered. -/
lemma nodup_everything (ht : t.Sound) (hp : t.isDirectory p) :
    ((t.directoriesFrom t.depth p).flatMap fun d => (t.names d).map d.child).Nodup := by
  rw [List.nodup_flatMap]
  constructor
  · intro d _
    refine (nodup_names ht d).map fun n m h => ?_
    rw [← name_child d n, ← name_child d m, h]
  · refine (nodup_directoriesFrom ht t.depth hp).imp fun {d d'} hne q hd hd' => ?_
    obtain ⟨n, -, rfl⟩ := List.mem_map.1 hd
    obtain ⟨n', -, hsame⟩ := List.mem_map.1 hd'
    exact hne (by rw [← parent_child d n, ← hsame, parent_child])

lemma isFile_iff : t.isFile p ↔ ∃ q c, t.find p = .ok (q, c) ∧ c ≠ .directory := by
  unfold isFile
  cases t.find p with
  | error f => simp
  | ok found =>
    obtain ⟨q, c⟩ := found
    cases c <;> simp

lemma holds_of_isFile (h : t.isFile p) : t.holds p := by
  obtain ⟨q, c, hfind, -⟩ := isFile_iff.1 h
  exact holds_iff.2 ⟨q, c, hfind⟩

lemma not_isDirectory_of_isFile (h : t.isFile p) : ¬t.isDirectory p := by
  obtain ⟨q, c, hfind, hne⟩ := isFile_iff.1 h
  intro hdir
  obtain ⟨d, hd⟩ := isDirectory_iff.1 hdir
  rw [LeadsTo, hfind] at hd
  cases hd
  exact hne rfl

/-- **The files below a directory are the files that names lead down to.** -/
theorem mem_filesBelow (hp : t.isDirectory p) :
    q ∈ t.filesBelow p ↔ ∃ ns, Downward ns ∧ q = p.below ns ∧ t.isFile q := by
  rw [filesBelow, mem_sort, List.mem_filter, List.mem_flatMap]
  constructor
  · rintro ⟨⟨d, hd, hq⟩, hfile⟩
    obtain ⟨ns, -, hns, rfl, -⟩ := (mem_directoriesFrom hp).1 hd
    obtain ⟨n, hn, rfl⟩ := List.mem_map.1 hq
    exact ⟨ns ++ [n], downward_append.2 ⟨hns, downward_singleton.2 (mem_names.1 hn).1⟩,
      (below_snoc p ns n).symm, hfile⟩
  · rintro ⟨ns, hns, rfl, hfile⟩
    refine ⟨?_, hfile⟩
    rcases List.eq_nil_or_concat ns with rfl | ⟨ms, n, rfl⟩
    · rw [below_nil] at hfile
      exact absurd hp (not_isDirectory_of_isFile hfile)
    · rw [List.concat_eq_append] at hns hfile ⊢
      obtain ⟨hms, hn⟩ := downward_append.1 hns
      have hholds := holds_of_isFile hfile
      have hdir : t.isDirectory (p.below ms) := isDirectory_of_holds (by simp) hholds
      obtain ⟨place, hplace⟩ := isDirectory_iff.1 hp
      obtain ⟨d, hd⟩ := isDirectory_iff.1 hdir
      have hlength := length_le_depth hplace hms (holds_iff.2 ⟨d, _, hd⟩)
      rw [below_snoc] at hholds ⊢
      exact ⟨p.below ms, (mem_directoriesFrom hp).2 ⟨ms, hlength, hms, rfl, hdir⟩,
        List.mem_map_of_mem (mem_names.2 ⟨downward_singleton.1 hn, hholds⟩)⟩

lemma anchor_of_mem_filesBelow (hp : t.isDirectory p) (hq : q ∈ t.filesBelow p) :
    q.anchor = p.anchor := by
  obtain ⟨ns, -, rfl, -⟩ := (mem_filesBelow hp).1 hq
  rfl

/-- **The files below a directory are listed in their order**, each of them once. -/
theorem pairwise_filesBelow (ht : t.Sound) (hp : t.isDirectory p) :
    (t.filesBelow p).Pairwise fun q q' => q.parts < q'.parts :=
  pairwise_lt_sort ((nodup_everything ht hp).filter _) fun _ hq =>
    anchor_of_mem_filesBelow hp (mem_sort.2 hq)

/-! ### The paths that a file name is found under -/

lemma nodup_eraseDups {α : Type} [BEq α] [LawfulBEq α] (xs : List α) : xs.eraseDups.Nodup := by
  induction hlength : xs.length using Nat.strong_induction_on generalizing xs with
  | _ m ih =>
    cases xs with
    | nil => exact List.nodup_nil
    | cons x xs =>
      subst hlength
      rw [List.eraseDups_cons, List.nodup_cons]
      refine ⟨?_, ih _ ?_ _ rfl⟩
      · rw [List.mem_eraseDups, List.mem_filter]
        simp
      · rw [List.length_cons]
        exact Nat.lt_succ_of_le (List.length_filter_le _ _)

/-- A name at all levels: the paths with that name under which something is found. -/
theorem mem_select_everywhere (hp : t.isDirectory p) :
    q ∈ t.select [.everywhere, .exact n] false p ↔
      ∃ ns, Downward ns ∧ q = (p.below ns).child n ∧ t.holds q := by
  simp only [select, List.mem_eraseDups, List.mem_flatMap]
  constructor
  · rintro ⟨d, hd, hq⟩
    obtain ⟨ns, -, hns, rfl, -⟩ := (mem_directoriesFrom hp).1 hd
    simp only [List.isEmpty_nil, Bool.not_false, Bool.and_self, if_true] at hq
    split_ifs at hq with hholds
    · obtain rfl := List.mem_singleton.1 hq
      exact ⟨ns, hns, rfl, hholds⟩
    · cases hq
  · rintro ⟨ns, hns, rfl, hholds⟩
    have hholds' := hholds
    rw [← below_snoc] at hholds'
    have hdir : t.isDirectory (p.below ns) := isDirectory_of_holds (by simp) hholds'
    obtain ⟨place, hplace⟩ := isDirectory_iff.1 hp
    obtain ⟨d, hd⟩ := isDirectory_iff.1 hdir
    have hlength := length_le_depth hplace hns (holds_iff.2 ⟨d, _, hd⟩)
    refine ⟨p.below ns, (mem_directoriesFrom hp).2 ⟨ns, hlength, hns, rfl, hdir⟩, ?_⟩
    simp [hholds]

lemma nodup_select_everywhere (cs : List Component) (only : Bool) (p : Path) :
    (t.select (.everywhere :: cs) only p).Nodup := by
  rw [select]
  exact nodup_eraseDups _

/-! ### The order of the entries -/

lemma sound_of_perm (ht : t.Sound) (h : t'.entries.Perm t.entries) : t'.Sound :=
  (h.map fun e : Path × Content => e.1).nodup_iff.2 ht

/-- Trees with the same entries find the same. -/
lemma find_eq_of_perm (ht : t.Sound) (h : t'.entries.Perm t.entries) (p : Path) :
    t'.find p = t.find p := by
  have ht' : t'.Sound := sound_of_perm ht h
  have hat : ∀ q, t'.at? q = t.at? q := by
    intro q
    refine Option.ext fun c => ?_
    rw [at?_eq_some_iff ht', at?_eq_some_iff ht, h.mem_iff]
  have hfollow : ∀ ns q, t'.follow q ns = t.follow q ns := by
    intro ns
    induction ns with
    | nil =>
      intro q
      rw [follow_nil, follow_nil, hat]
    | cons n ns ih =>
      intro q
      obtain ⟨q', hstep⟩ := exists_step q n
      rw [follow_cons, follow_cons, hstep, hstep, ih, follow_nil, follow_nil, hat]
  exact hfollow p.names _

variable (ht : t.Sound) (ht' : t'.Sound) (hfind : ∀ p, t'.find p = t.find p)

include hfind

lemma isDirectory_congr (p : Path) : t'.isDirectory p = t.isDirectory p := by
  unfold isDirectory
  rw [hfind]

lemma isFile_congr (p : Path) : t'.isFile p = t.isFile p := by
  unfold isFile
  rw [hfind]

lemma bytes_congr (p : Path) : t'.bytes p = t.bytes p := by
  unfold bytes
  rw [hfind]

include ht ht'

/-- **The files below a directory do not depend on the order of the entries.** -/
theorem filesBelow_congr (hp : t.isDirectory p) : t'.filesBelow p = t.filesBelow p := by
  have hp' : t'.isDirectory p := by rwa [isDirectory_congr hfind]
  refine sort_eq_of_same ((nodup_everything ht' hp').filter _) ((nodup_everything ht hp).filter _)
    (fun q hq => anchor_of_mem_filesBelow hp' (mem_sort.2 hq)) fun q => ?_
  have hmem' : q ∈ t'.filesBelow p ↔ _ := mem_filesBelow hp'
  have hmem : q ∈ t.filesBelow p ↔ _ := mem_filesBelow hp
  rw [filesBelow, mem_sort] at hmem hmem'
  rw [hmem, hmem', isFile_congr hfind]

end FileTree

end TemplateLint
