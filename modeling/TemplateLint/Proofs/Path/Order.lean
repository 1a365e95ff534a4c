import Mathlib.Data.List.Lex
import Mathlib.Data.List.Sort
import Mathlib.Data.String.Basic
import Mathlib.Tactic.Tauto
import TemplateLint.Path

/-!
Paths below a path, and the order of paths.

Paths are ordered by their parts. Two paths with one anchor and the same parts are one path, so the
order of the paths that are below some path is total there, and a list of them has one sorted form
only, whatever order it comes in. Main statement: `sort_eq_of_same`.
-/

namespace TemplateLint.Path

/-- The path that names lead to from a path. -/
def below (p : Path) (ns : List String) : Path := { p with names := p.names ++ ns }

variable {p q : Path} {ns ms : List String} {n : String}

@[simp] lemma anchor_below (p : Path) (ns : List String) : (p.below ns).anchor = p.anchor := rfl
@[simp] lemma names_below (p : Path) (ns : List String) :
    (p.below ns).names = p.names ++ ns := rfl

@[simp] lemma names_child (p : Path) (n : String) :
    (p.child n).names = p.names ++ [n] := rfl

@[simp] lemma below_nil (p : Path) : p.below [] = p := by simp [below]

lemma below_append (p : Path) (ns ms : List String) :
    p.below (ns ++ ms) = (p.below ns).below ms := by
  simp [below]

lemma child_eq_below (p : Path) (n : String) : p.child n = p.below [n] := rfl

lemma below_cons (p : Path) (n : String) (ns : List String) :
    p.below (n :: ns) = (p.child n).below ns := below_append p [n] ns

lemma below_snoc (p : Path) (ns : List String) (n : String) :
    p.below (ns ++ [n]) = (p.below ns).child n := below_append p ns [n]

lemma below_injective (p : Path) : Function.Injective p.below := by
  intro ns ms h
  exact List.append_cancel_left (congrArg Path.names h)

@[simp] lemma below_eq_self_iff : p.below ns = p ↔ ns = [] := by
  constructor
  · intro h
    exact p.below_injective (h.trans p.below_nil.symm)
  · rintro rfl
    exact p.below_nil

@[simp] lemma parent_child (p : Path) (n : String) : (p.child n).parent = p := by
  simp [child, parent]

@[simp] lemma name_child (p : Path) (n : String) : (p.child n).name = n := by
  simp [child, name]

/-- A path with names is a child of its parent. -/
lemma child_name_parent (h : p.names ≠ []) : p.parent.child p.name = p := by
  obtain ⟨anchor, names⟩ := p
  have hlast : names.getLast?.getD "" = names.getLast h := by
    rw [List.getLast?_eq_some_getLast h, Option.getD_some]
  simp only [parent, child, name, hlast, List.dropLast_append_getLast h]

/-- A path lies below its parent. -/
lemma exists_below_parent (p : Path) : ∃ ns, p = p.parent.below ns := by
  by_cases h : p.names = []
  · obtain ⟨anchor, names⟩ := p
    obtain rfl : names = [] := h
    exact ⟨[], rfl⟩
  · exact ⟨[p.name], (child_name_parent h).symm⟩

/-! ### What lies below -/

lemma dropPrefix?_eq_some_iff {bs xs ys : List String} :
    dropPrefix? bs xs = some ys ↔ xs = bs ++ ys := by
  induction bs generalizing xs with
  | nil => simp [dropPrefix?, eq_comm]
  | cons b bs ih =>
    cases xs with
    | nil => simp [dropPrefix?]
    | cons x xs =>
      by_cases hbx : b = x
      · simp [dropPrefix?, hbx, ih]
      · simp [dropPrefix?, hbx, Ne.symm hbx]

/-- From a base a path is seen as the names that lead to it. -/
lemma relativeTo?_eq_some_iff {r : Path} :
    p.relativeTo? q = some r ↔ ∃ ns, p = q.below ns ∧ r = ⟨.here, ns⟩ := by
  unfold relativeTo?
  constructor
  · intro h
    split_ifs at h with hanchor
    obtain ⟨ns, hdrop, rfl⟩ := Option.map_eq_some_iff.1 h
    obtain ⟨anchor, names⟩ := p
    simp only at hanchor hdrop
    exact ⟨ns, by rw [below, ← dropPrefix?_eq_some_iff.1 hdrop, hanchor], rfl⟩
  · rintro ⟨ns, rfl, rfl⟩
    rw [if_pos (anchor_below q ns), dropPrefix?_eq_some_iff.2 (names_below q ns)]
    rfl

lemma relativeTo?_below (p : Path) (ns : List String) :
    (p.below ns).relativeTo? p = some ⟨.here, ns⟩ := relativeTo?_eq_some_iff.2 ⟨ns, rfl, rfl⟩

/-- A path can be seen from a base just if it lies below it. -/
lemma relativeTo?_eq_none_iff : p.relativeTo? q = none ↔ ∀ ns, p ≠ q.below ns := by
  rw [Option.eq_none_iff_forall_ne_some]
  constructor
  · rintro h ns rfl
    exact h _ (relativeTo?_below q ns)
  · intro h r hr
    obtain ⟨ns, hp, -⟩ := relativeTo?_eq_some_iff.1 hr
    exact h ns hp

/-! ### The order -/

lemma partsLe_iff {as bs : List String} : partsLe as bs ↔ as = bs ∨ as < bs := by
  induction as generalizing bs with
  | nil => cases bs <;> simp [partsLe]
  | cons a as ih =>
    cases bs with
    | nil => simp [partsLe]
    | cons b bs =>
      simp only [partsLe, Bool.or_eq_true, Bool.and_eq_true, decide_eq_true_eq, beq_iff_eq, ih,
        List.cons.injEq, List.cons_lt_cons_iff]
      tauto

lemma le_iff : p.le q ↔ p.parts = q.parts ∨ p.parts < q.parts := partsLe_iff

lemma le_trans_of_le {r : Path} (hpq : p.le q) (hqr : q.le r) : p.le r := by
  rw [le_iff] at *
  rcases hpq with hpq | hpq
  · rwa [hpq]
  · rcases hqr with hqr | hqr
    · exact .inr (hqr ▸ hpq)
    · exact .inr (lt_trans hpq hqr)

lemma le_or_le (p q : Path) : p.le q || q.le p := by
  rw [Bool.or_eq_true, le_iff, le_iff]
  rcases lt_trichotomy p.parts q.parts with h | h | h
  · exact .inl (.inr h)
  · exact .inl (.inl h)
  · exact .inr (.inr h)

/-- Below one path the parts tell paths apart. -/
lemma eq_of_parts_eq (hanchor : p.anchor = q.anchor) (h : p.parts = q.parts) : p = q := by
  obtain ⟨a, ns⟩ := p
  obtain ⟨b, ms⟩ := q
  obtain rfl : a = b := hanchor
  cases a with
  | here => exact congrArg _ h
  | root | doubleRoot => exact congrArg _ (List.cons.inj h).2

lemma mem_sort {ps : List Path} : p ∈ sort ps ↔ p ∈ ps := List.mem_mergeSort

lemma pairwise_sort (ps : List Path) : (sort ps).Pairwise fun p q => p.le q :=
  @List.pairwise_mergeSort Path le (fun _ _ _ => le_trans_of_le) le_or_le ps

/-- **Distinct paths with one anchor are sorted strictly.** -/
theorem pairwise_lt_sort {ps : List Path} {a : Anchor} (hps : ps.Nodup)
    (ha : ∀ p ∈ ps, p.anchor = a) : (sort ps).Pairwise fun p q => p.parts < q.parts := by
  have hnodup : (sort ps).Nodup := (List.mergeSort_perm ps _).nodup_iff.2 hps
  refine ((pairwise_sort ps).and hnodup).imp_of_mem fun {p q} hp hq h => ?_
  obtain ⟨hle, hne⟩ := h
  rcases le_iff.1 hle with heq | hlt
  · have hanchor : p.anchor = q.anchor :=
      (ha p (mem_sort.1 hp)).trans (ha q (mem_sort.1 hq)).symm
    exact absurd (eq_of_parts_eq hanchor heq) hne
  · exact hlt

/-- Two lists of the same paths in their strict order are one list. -/
lemma eq_of_ordered {ps qs : List Path} (hps : ps.Pairwise fun p q => p.parts < q.parts)
    (hqs : qs.Pairwise fun p q => p.parts < q.parts) (hsame : ∀ p, p ∈ ps ↔ p ∈ qs) : ps = qs := by
  have hnodup : ∀ {rs : List Path}, (rs.Pairwise fun p q => p.parts < q.parts) → rs.Nodup :=
    fun hrs => hrs.imp fun {p q} (hlt : p.parts < q.parts) (heq : p = q) =>
      lt_irrefl p.parts (heq ▸ hlt)
  have hperm : ps.Perm qs := (List.perm_ext_iff_of_nodup (hnodup hps) (hnodup hqs)).2 hsame
  exact List.Perm.eq_of_pairwise (fun _ _ _ _ hpq hqp => absurd hqp (lt_asymm hpq)) hps hqs hperm

/-- **Paths with one anchor have one sorted form**, whatever the order in which they come. -/
theorem sort_eq_of_same {ps qs : List Path} {a : Anchor} (hps : ps.Nodup) (hqs : qs.Nodup)
    (ha : ∀ p ∈ ps, p.anchor = a) (hsame : ∀ p, p ∈ ps ↔ p ∈ qs) : sort ps = sort qs := by
  have ha' : ∀ q ∈ qs, q.anchor = a := fun q hq => ha q ((hsame q).2 hq)
  refine eq_of_ordered (pairwise_lt_sort hps ha) (pairwise_lt_sort hqs ha') fun p => ?_
  rw [mem_sort, mem_sort, hsame]

end TemplateLint.Path
