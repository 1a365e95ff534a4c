import Mathlib.Data.List.Nodup
import TemplateLint.Proofs.Node.Occurrence
import TemplateLint.Proofs.Splice.Walk

/-!
A walk as a traversal by fields.

Each walked occurrence is entered and left once, and between the two is all that hangs below it. If
no walked occurrence is too far down or has fields unset, then the moments of a walk are these
marks, one for one; otherwise one of its moments ends it. Main statements: `traversal_marks`,
`moments_eq`, `exists_not_isVisit`.
-/

namespace TemplateLint

/-- An occurrence that is entered or left. -/
structure Mark where
  occurrence : Occurrence
  phase : Phase

namespace Mark

def visit (m : Mark) : Visit := ⟨m.occurrence.node, m.occurrence.path⟩

def moment (m : Mark) : Walk.Moment := .visit m.visit m.phase

end Mark

namespace Node

/-- The marks below and including a node that is at the end of `path`. -/
def marksAt : Nat → List Link → Node → List Mark
  | 0, _, _ => []
  | levels + 1, path, n =>
    ⟨⟨path, n⟩, .enter⟩ ::
      ((n.walkedLinks.flatMap fun c => marksAt levels (path ++ [c.1]) c.2) ++ [⟨⟨path, n⟩, .exit⟩])

def marks (root : Node) : List Mark := marksAt root.height [] root

variable {n : Node} {levels : Nat} {path : List Link} {o : Occurrence} {m : Mark}

/-! ### Which occurrences are walked -/

/-- What hangs below a link that is left out is not walked. -/
lemma not_walked_of_leftOut {l : Link} (hl : l.leftOut)
    (ho : o ∈ occurrencesAt levels (path ++ [l]) n) : ¬o.walked := by
  intro hw
  obtain ⟨rest, hrest⟩ := prefix_of_mem_occurrencesAt ho
  have := List.all_eq_true.1 hw l (by simp [← hrest])
  simp [hl] at this

/-- The walked occurrences are the root and those below links that are not left out. -/
lemma filter_walked_occurrencesAt (hp : path.all (!·.leftOut)) :
    (occurrencesAt (levels + 1) path n).filter (·.walked) =
      ⟨path, n⟩ :: n.walkedLinks.flatMap fun c =>
        (occurrencesAt levels (path ++ [c.1]) c.2).filter (·.walked) := by
  have hlinks : ∀ cs : List (Link × Node),
      (cs.flatMap fun c => occurrencesAt levels (path ++ [c.1]) c.2).filter (·.walked) =
        (cs.filter (!·.1.leftOut)).flatMap fun c =>
          (occurrencesAt levels (path ++ [c.1]) c.2).filter (·.walked) := by
    intro cs
    induction cs with
    | nil => rfl
    | cons c cs ih =>
      rw [List.flatMap_cons, List.filter_append, ih]
      cases hl : c.1.leftOut with
      | true =>
        rw [List.filter_cons_of_neg (by simp [hl]), List.filter_eq_nil_iff.2 fun o ho =>
          not_walked_of_leftOut hl ho, List.nil_append]
      | false => rw [List.filter_cons_of_pos (by simp [hl]), List.flatMap_cons]
  have hroot : (⟨path, n⟩ : Occurrence).walked := hp
  rw [occurrencesAt, List.filter_cons_of_pos hroot, hlinks, walkedLinks]

lemma all_append_walkedLink (hp : path.all (!·.leftOut)) {c : Link × Node}
    (hc : c ∈ n.walkedLinks) : (path ++ [c.1]).all (!·.leftOut) := by
  rw [List.all_append, hp, List.all_cons, (List.mem_filter.1 hc).2]
  rfl

lemma mem_links_of_mem_walkedLinks {c : Link × Node} (hc : c ∈ n.walkedLinks) : c ∈ n.links :=
  (List.mem_filter.1 hc).1

/-! ### Entered and left once -/

/-- The occurrences that are entered are the walked ones, in the order of the traversal. -/
lemma enters_marksAt (hp : path.all (!·.leftOut)) :
    ((marksAt levels path n).filter (·.phase == .enter)).map (·.occurrence) =
      (occurrencesAt levels path n).filter (·.walked) := by
  induction levels generalizing path n with
  | zero => rfl
  | succ levels ih =>
    have hexit : (Phase.exit == .enter) = false := by decide
    rw [filter_walked_occurrencesAt hp, marksAt, List.filter_cons_of_pos rfl, List.filter_append,
      List.filter_cons_of_neg (by simp [hexit]), List.filter_nil, List.append_nil, List.map_cons,
      List.filter_flatMap, List.map_flatMap]
    congr 1
    exact List.flatMap_congr fun c hc => ih (all_append_walkedLink hp hc)

lemma mem_marksAt (hp : path.all (!·.leftOut)) :
    m ∈ marksAt levels path n ↔
      m.occurrence ∈ occurrencesAt levels path n ∧ m.occurrence.walked := by
  rw [← List.mem_filter]
  induction levels generalizing path n with
  | zero => simp [marksAt, occurrencesAt]
  | succ levels ih =>
    have hown : m = ⟨⟨path, n⟩, .enter⟩ ∨ m = ⟨⟨path, n⟩, .exit⟩ ↔ m.occurrence = ⟨path, n⟩ := by
      obtain ⟨o, phase⟩ := m
      cases phase <;> simp
    have hchild : ∀ c ∈ n.walkedLinks, m ∈ marksAt levels (path ++ [c.1]) c.2 ↔
        m.occurrence ∈ (occurrencesAt levels (path ++ [c.1]) c.2).filter (·.walked) :=
      fun c hc => ih (all_append_walkedLink hp hc)
    rw [filter_walked_occurrencesAt hp, marksAt, List.mem_cons, List.mem_append,
      List.mem_singleton, List.mem_cons, ← hown, List.mem_flatMap, List.mem_flatMap,
      exists_congr fun c => and_congr_right (hchild c), or_assoc]
    exact or_congr_right or_comm

/-- Where the way begins is where it goes on. -/
lemma prefix_of_mem_marksAt (h : m ∈ marksAt levels path n) : path <+: m.occurrence.path := by
  induction levels generalizing path n with
  | zero => cases h
  | succ levels ih =>
    rcases List.mem_cons.1 h with rfl | h
    · exact List.prefix_rfl
    rcases List.mem_append.1 h with h | h
    · obtain ⟨c, -, h⟩ := List.mem_flatMap.1 h
      exact (List.prefix_append ..).trans (ih h)
    · rw [List.mem_singleton.1 h]

/-- A mark below a child is further down than the node. -/
lemma below_of_mem_child {c : Link × Node} (h : m ∈ marksAt levels (path ++ [c.1]) c.2) :
    m.occurrence.Below ⟨path, n⟩ := by
  have hstarts := prefix_of_mem_marksAt h
  refine ⟨(List.prefix_append ..).trans hstarts, fun heq => ?_⟩
  have hle := hstarts.length_le
  rw [heq, List.length_append, List.length_singleton] at hle
  exact Nat.not_succ_le_self _ hle

/-- What is marked below one child is not marked below another one. -/
lemma not_prefix_of_sibling {c d : Link × Node} (hne : c.1 ≠ d.1)
    (h : m ∈ marksAt levels (path ++ [c.1]) c.2) : ¬path ++ [d.1] <+: m.occurrence.path :=
  fun hd => hne (link_unique (prefix_of_mem_marksAt h) hd)

lemma pairwise_walkedLinks (n : Node) : n.walkedLinks.Pairwise fun c d => c.1 ≠ d.1 :=
  (List.pairwise_map.1 (nodup_links n)).sublist List.filter_sublist

lemma nodup_marksAt (levels : Nat) (path : List Link) (n : Node) :
    (marksAt levels path n).Nodup := by
  induction levels generalizing path n with
  | zero => exact List.nodup_nil
  | succ levels ih =>
    have hbelow : ∀ phase, (⟨⟨path, n⟩, phase⟩ : Mark) ∉
        n.walkedLinks.flatMap fun c => marksAt levels (path ++ [c.1]) c.2 := by
      intro phase hmem
      obtain ⟨c, -, hc⟩ := List.mem_flatMap.1 hmem
      exact (below_of_mem_child hc).2 rfl
    have hchildren : (n.walkedLinks.flatMap fun c => marksAt levels (path ++ [c.1]) c.2).Nodup := by
      refine List.nodup_flatMap.2 ⟨fun c _ => ih .., (pairwise_walkedLinks n).imp ?_⟩
      intro c d hne
      refine List.disjoint_left.2 fun m hc hd => ?_
      exact not_prefix_of_sibling hne hc (prefix_of_mem_marksAt hd)
    rw [marksAt, List.nodup_cons, List.nodup_append]
    refine ⟨fun hmem => ?_, hchildren, List.nodup_singleton _, fun a ha b hb => ?_⟩
    · rcases List.mem_append.1 hmem with hmem | hmem
      · exact hbelow _ hmem
      · simp at hmem
    · rintro rfl
      exact hbelow .exit (List.mem_singleton.1 hb ▸ ha)

/-! ### Brackets -/

/-- Marks in which an occurrence is entered and left, with exactly the marks below it between. -/
def Bracketed (o : Occurrence) (ms : List Mark) : Prop :=
  ∃ before inside after, ms = before ++ ⟨o, .enter⟩ :: (inside ++ ⟨o, .exit⟩ :: after) ∧
    (∀ m ∈ inside, m.occurrence.Below o) ∧ ∀ m ∈ before ++ after, ¬m.occurrence.Below o

/-- Marks around, none of them below the occurrence, make no difference. -/
lemma Bracketed.surround {ms before after : List Mark} (h : Bracketed o ms)
    (hbefore : ∀ m ∈ before, ¬m.occurrence.Below o)
    (hafter : ∀ m ∈ after, ¬m.occurrence.Below o) : Bracketed o (before ++ (ms ++ after)) := by
  obtain ⟨before', inside, after', rfl, hinside, houtside⟩ := h
  refine ⟨before ++ before', inside, after' ++ after, by simp, hinside, fun m hm => ?_⟩
  simp only [List.mem_append] at hm houtside
  rcases hm with (hm | hm) | hm | hm
  · exact hbefore m hm
  · exact houtside m (.inl hm)
  · exact houtside m (.inr hm)
  · exact hafter m hm

lemma bracketed_marksAt (hp : path.all (!·.leftOut)) (ho : o ∈ occurrencesAt levels path n)
    (hw : o.walked) : Bracketed o (marksAt levels path n) := by
  induction levels generalizing path n with
  | zero => cases ho
  | succ levels ih =>
    have hmem := List.mem_filter.2 ⟨ho, hw⟩
    rw [filter_walked_occurrencesAt hp] at hmem
    rcases List.mem_cons.1 hmem with rfl | hmem
    · refine ⟨[], _, [], rfl, fun m hm => ?_, fun m hm => by cases hm⟩
      obtain ⟨c, -, hc⟩ := List.mem_flatMap.1 hm
      exact below_of_mem_child hc
    · obtain ⟨c, hc, hmem⟩ := List.mem_flatMap.1 hmem
      obtain ⟨hchild, -⟩ := List.mem_filter.1 hmem
      have hstarts := prefix_of_mem_occurrencesAt hchild
      have hbracketed := ih (all_append_walkedLink hp hc) hchild
      -- neither the node itself nor what hangs at its other links is below the occurrence
      have hself : ¬(⟨path, n⟩ : Occurrence).Below o := by
        intro hbelow
        have := hstarts.length_le
        have := hbelow.1.length_le
        simp only [List.length_append, List.length_singleton] at *
        omega
      have hother : ∀ d ∈ n.walkedLinks, c.1 ≠ d.1 →
          ∀ m ∈ marksAt levels (path ++ [d.1]) d.2, ¬m.occurrence.Below o :=
        fun d _ hne m hm hbelow => not_prefix_of_sibling hne.symm hm (hstarts.trans hbelow.1)
      obtain ⟨ls, rs, hsplit⟩ := List.append_of_mem hc
      have hpairwise := pairwise_walkedLinks n
      rw [hsplit, List.pairwise_append, List.pairwise_cons] at hpairwise
      obtain ⟨-, ⟨hright, -⟩, hleft⟩ := hpairwise
      have hmarks : marksAt (levels + 1) path n =
          (⟨⟨path, n⟩, .enter⟩ :: ls.flatMap fun c => marksAt levels (path ++ [c.1]) c.2) ++
          (marksAt levels (path ++ [c.1]) c.2 ++
            ((rs.flatMap fun c => marksAt levels (path ++ [c.1]) c.2) ++
              [⟨⟨path, n⟩, .exit⟩])) := by
        rw [marksAt, hsplit]
        simp
      rw [hmarks]
      refine hbracketed.surround (fun m hm => ?_) fun m hm => ?_
      · rcases List.mem_cons.1 hm with rfl | hm
        · exact hself
        · obtain ⟨d, hd, hm⟩ := List.mem_flatMap.1 hm
          exact hother d (by simp [hsplit, hd]) (hleft d hd c (.head _)).symm m hm
      · rcases List.mem_append.1 hm with hm | hm
        · obtain ⟨d, hd, hm⟩ := List.mem_flatMap.1 hm
          exact hother d (by simp [hsplit, hd]) (hright d hd) m hm
        · rw [List.mem_singleton.1 hm]
          exact hself

/-- Marks are those of the traversal of a tree by fields. -/
structure Traversal (root : Node) (ms : List Mark) : Prop where
  /-- Different occurrences have different ways. -/
  ways : (root.occurrences.map (·.path)).Nodup
  /-- The occurrences are entered in the order of the traversal, without what is left out. -/
  enters : (ms.filter (·.phase == .enter)).map (·.occurrence) =
    root.occurrences.filter (·.walked)
  /-- Each of them is entered and left … -/
  marked : ∀ m, m ∈ ms ↔ m.occurrence ∈ root.occurrences ∧ m.occurrence.walked
  /-- … and that once. -/
  once : ms.Nodup
  /-- In between is what hangs below it. -/
  bracketed : ∀ o ∈ root.occurrences, o.walked → Bracketed o ms

theorem traversal_marks (root : Node) : Traversal root root.marks where
  ways := nodup_path_occurrences root
  enters := enters_marksAt rfl
  marked _ := mem_marksAt rfl
  once := nodup_marksAt ..
  bracketed _ ho hw := bracketed_marksAt rfl ho hw

end Node

namespace Walk

open Node

variable {n : Node} {levels : Nat} {path : List Link}

/-- **A walk goes from mark to mark**, if no walked occurrence is further down than the levels
go, or has fields unset that should be walked. -/
theorem moments_eq {height : Nat} (hheight : n.height ≤ height) (hp : path.all (!·.leftOut))
    (h : ∀ o ∈ occurrencesAt height path n, o.walked →
      o.path.length < path.length + levels ∧ o.node.steps? ≠ none) :
    moments levels ⟨n, path⟩ = (marksAt height path n).map Mark.moment := by
  induction height generalizing levels path n with
  | zero =>
    obtain ⟨k, l, fs⟩ := n
    simp [Node.height] at hheight
  | succ height ih =>
    obtain ⟨hlevels, hset⟩ := h ⟨path, n⟩ (.head _) hp
    obtain ⟨levels, rfl⟩ : ∃ k, levels = k + 1 :=
      ⟨levels - 1, by simp only at hlevels; omega⟩
    obtain ⟨cs, hcs⟩ : ∃ cs, n.steps? = some cs := Option.ne_none_iff_exists'.1 hset
    have hvisit : (⟨n, path⟩ : Visit).node.steps? = some cs := hcs
    have hmomentsOf : momentsOf levels (cs.map (⟨n, path⟩ : Visit).child) =
        (n.walkedLinks.flatMap fun c => marksAt height (path ++ [c.1]) c.2).map Mark.moment := by
      rw [momentsOf, steps?_eq hcs, List.flatMap_map, List.map_flatMap]
      refine List.flatMap_congr fun c hc => ?_
      have hlink := mem_links_of_mem_walkedLinks hc
      have hlt := height_lt_of_mem_children (mem_children_of_mem_links hlink)
      have hbelow : ∀ o ∈ occurrencesAt height (path ++ [c.1]) c.2, o.walked →
          o.path.length < (path ++ [c.1]).length + levels ∧ o.node.steps? ≠ none := by
        intro o ho hw
        have hmem : o ∈ occurrencesAt (height + 1) path n :=
          List.mem_cons_of_mem _ (List.mem_flatMap.2 ⟨c, hlink, ho⟩)
        obtain ⟨hlength, hset⟩ := h o hmem hw
        rw [List.length_append, List.length_singleton]
        exact ⟨by omega, hset⟩
      exact ih (by omega) (all_append_walkedLink hp hc) hbelow
    rw [moments_succ hvisit, hmomentsOf, marksAt, List.map_cons, List.map_append]
    rfl

/-- A walk is ended if a walked occurrence is further down, or has fields unset. -/
theorem exists_not_isVisit {height : Nat} {o : Occurrence} (ho : o ∈ occurrencesAt height path n)
    (hw : o.walked) (h : path.length + levels ≤ o.path.length ∨ o.node.steps? = none) :
    ∃ m ∈ moments levels ⟨n, path⟩, m.isVisit = false := by
  induction levels generalizing height path n with
  | zero => exact ⟨.tooDeep, List.mem_singleton.2 rfl, rfl⟩
  | succ levels ih =>
    cases hcs : n.steps? with
    | none => exact ⟨.unset n.kind, by simp [moments, hcs], rfl⟩
    | some cs =>
      have hvisit : (⟨n, path⟩ : Visit).node.steps? = some cs := hcs
      rw [moments_succ hvisit]
      cases height with
      | zero => cases ho
      | succ height =>
        rcases List.mem_cons.1 ho with rfl | ho
        · simp only [hcs, reduceCtorEq, or_false] at h
          omega
        obtain ⟨c, hc, ho⟩ := List.mem_flatMap.1 ho
        have hwalked : c ∈ n.walkedLinks := by
          refine List.mem_filter.2 ⟨hc, ?_⟩
          cases hl : c.1.leftOut with
          | true => exact absurd hw (not_walked_of_leftOut hl ho)
          | false => rfl
        have hmem : (⟨n, path⟩ : Visit).child c ∈ cs.map (⟨n, path⟩ : Visit).child :=
          List.mem_map_of_mem (steps?_eq hcs ▸ hwalked)
        have hbelow : (path ++ [c.1]).length + levels ≤ o.path.length ∨ o.node.steps? = none := by
          rw [List.length_append, List.length_singleton]
          exact h.imp_left fun h => by omega
        obtain ⟨m, hm, hstop⟩ := ih ho hbelow
        exact ⟨m, .tail _ (List.mem_append_left _ (List.mem_flatMap.2 ⟨_, hmem, hm⟩)), hstop⟩

/-- A walk through a complete tree goes too deep if a walked occurrence is further down. -/
theorem tooDeep_mem (hn : n.Complete) {height : Nat} {o : Occurrence}
    (ho : o ∈ occurrencesAt height path n) (hw : o.walked)
    (hdeep : path.length + levels ≤ o.path.length) : .tooDeep ∈ moments levels ⟨n, path⟩ := by
  obtain ⟨m, hm, hstop⟩ := exists_not_isVisit ho hw (.inl hdeep)
  cases m with
  | visit v phase => cases hstop
  | tooDeep => exact hm
  | unset kind => exact absurd hm (unset_not_mem_moments (v := ⟨n, path⟩) hn levels kind)

end Walk

end TemplateLint
