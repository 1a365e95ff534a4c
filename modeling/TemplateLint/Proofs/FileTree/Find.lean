import TemplateLint.FileTree
import TemplateLint.Proofs.Path.Order

/-!
What is found under a path.

A path is followed name by name, so what is found below a path is found from the place of that path
(`follow_append`). Names other than `..` lead straight down, and then the place of a path has the
same names below it as the path itself (`place_of_follow`). A file that is written is found under
the paths that lead to its place, and nothing else changes (`find_set_below`).
-/

namespace TemplateLint

/-- Names that lead straight down. -/
def Path.Downward (ns : List String) : Prop := ∀ n ∈ ns, n ≠ ".."

lemma Path.downward_append {ns ms : List String} :
    Downward (ns ++ ms) ↔ Downward ns ∧ Downward ms := List.forall_mem_append

lemma Path.downward_singleton {n : String} : Downward [n] ↔ n ≠ ".." := by simp [Downward]

open TemplateLint.Path

namespace FileTree

variable {t t' : FileTree} {p q d : Path} {c : Content} {n : String} {ns ms : List String}

lemma follow_nil (t : FileTree) (p : Path) : t.follow p [] =
    if p.names.isEmpty then .ok (p, .directory)
    else match t.at? p with
      | some c => .ok (p, c)
      | none => .error .missing :=
  follow.eq_1 t p

/-- A name is followed if there is a directory. -/
lemma follow_cons (t : FileTree) (p : Path) (n : String) (ns : List String) :
    t.follow p (n :: ns) = match t.follow p [] with
      | .ok (_, .directory) => follow.step t p n ns
      | .ok _ => .error .notDirectory
      | .error f => .error f := by
  rw [follow_nil]
  conv_lhs => rw [follow]
  split_ifs
  · rfl
  · cases t.at? p with
    | none => rfl
    | some c => cases c <;> rfl

lemma place_of_follow_nil (h : t.follow p [] = .ok (q, c)) : q = p := by
  rw [follow_nil] at h
  split_ifs at h
  · cases h
    rfl
  · cases hat : t.at? p <;> rw [hat] at h <;> cases h
    rfl

/-- A step leads to some other path, whatever the tree is and whatever follows. -/
lemma exists_step (p : Path) (n : String) :
    ∃ q, ∀ (t : FileTree) ns, follow.step t p n ns = t.follow q ns := by
  unfold follow.step
  split_ifs
  · exact ⟨p, fun _ _ => rfl⟩
  · exact ⟨p.child n, fun _ _ => rfl⟩
  · exact ⟨p.parent, fun _ _ => rfl⟩
  · exact ⟨p.child n, fun _ _ => rfl⟩

/-- What is found under a path is what is in the tree under its place. -/
lemma follow_place (h : t.follow p ns = .ok (q, c)) : t.follow q [] = .ok (q, c) := by
  induction ns generalizing p with
  | nil =>
    obtain rfl := place_of_follow_nil h
    exact h
  | cons n ns ih =>
    obtain ⟨p', hstep⟩ := exists_step p n
    rw [follow_cons] at h
    split at h
    · rw [hstep] at h
      exact ih h
    · cases h
    · cases h

/-- **Names are followed one part after the other.** -/
theorem follow_append (t : FileTree) (p : Path) (ns ms : List String) (hms : ms ≠ []) :
    t.follow p (ns ++ ms) = match t.follow p ns with
      | .ok (d, .directory) => t.follow d ms
      | .ok _ => .error .notDirectory
      | .error f => .error f := by
  induction ns generalizing p with
  | nil =>
    obtain ⟨m, ms, rfl⟩ := List.exists_cons_of_ne_nil hms
    rw [List.nil_append, follow_cons]
    cases h : t.follow p [] with
    | error f => rfl
    | ok found =>
      obtain ⟨q, c⟩ := found
      obtain rfl := place_of_follow_nil h
      cases c with
      | directory =>
        dsimp only
        rw [follow_cons, h]
      | file bytes => rfl
      | rule r => rfl
      | locked => rfl
  | cons n ns ih =>
    rw [List.cons_append, follow_cons, follow_cons]
    obtain ⟨q, hstep⟩ := exists_step p n
    cases t.follow p [] with
    | error f => rfl
    | ok found =>
      obtain ⟨-, c⟩ := found
      cases c with
      | directory =>
        dsimp only
        rw [hstep, hstep, ih]
      | file bytes => rfl
      | rule r => rfl
      | locked => rfl

lemma step_of_ne (h : n ≠ "..") : follow.step t p n ns = t.follow (p.child n) ns := by
  unfold follow.step
  rw [if_neg (by simpa using h)]

/-- **Names that lead down** end at the place that they are added to. -/
theorem place_of_follow (hns : Downward ns) (h : t.follow p ns = .ok (q, c)) :
    q = p.below ns := by
  induction ns generalizing p with
  | nil => rw [place_of_follow_nil h, below_nil]
  | cons n ns ih =>
    obtain ⟨hn, hns⟩ := List.forall_mem_cons.1 hns
    rw [follow_cons, step_of_ne hn] at h
    split at h
    · rw [ih hns h, below_cons]
    · cases h
    · cases h

/-- The path leads to a directory at a place. -/
def LeadsTo (t : FileTree) (p d : Path) : Prop := t.find p = .ok (d, .directory)

lemma isDirectory_iff : t.isDirectory p ↔ ∃ d, t.LeadsTo p d := by
  unfold isDirectory LeadsTo
  cases t.find p with
  | error f => simp
  | ok found =>
    obtain ⟨q, c⟩ := found
    cases c <;> simp

lemma find_below (h : t.LeadsTo p d) (ns : List String) : t.find (p.below ns) = t.follow d ns := by
  have hp : t.follow ⟨p.anchor, []⟩ p.names = .ok (d, .directory) := h
  by_cases hns : ns = []
  · subst hns
    rw [below_nil, follow_place hp]
    exact h
  · have happend := follow_append t ⟨p.anchor, []⟩ p.names ns hns
    rw [hp] at happend
    exact happend

lemma holds_iff : t.holds p ↔ ∃ q c, t.find p = .ok (q, c) := by
  unfold holds
  cases t.find p with
  | error f => simp [Except.isOk, Except.toBool]
  | ok found => exact ⟨fun _ => ⟨found.1, found.2, rfl⟩, fun _ => rfl⟩

/-- Above what is found there are directories. -/
lemma isDirectory_of_holds (hms : ms ≠ []) (h : t.holds (p.below (ns ++ ms))) :
    t.isDirectory (p.below ns) := by
  obtain ⟨q, c, hfind⟩ := holds_iff.1 h
  have happend := follow_append t ⟨p.anchor, []⟩ (p.names ++ ns) ms hms
  rw [List.append_assoc] at happend
  have hfind' : t.follow ⟨p.anchor, []⟩ (p.names ++ (ns ++ ms)) = .ok (q, c) := hfind
  rw [hfind'] at happend
  have hway : t.find (p.below ns) = t.follow ⟨p.anchor, []⟩ (p.names ++ ns) := rfl
  split at happend
  · next d hd => exact isDirectory_iff.2 ⟨d, hway.trans hd⟩
  · cases happend
  · cases happend

lemma place_below (h : t.LeadsTo p d) (hns : Downward ns)
    (hfind : t.find (p.below ns) = .ok (q, c)) : q = d.below ns := by
  rw [find_below h] at hfind
  exact place_of_follow hns hfind

lemma find_child (h : t.LeadsTo p d) (hn : n ≠ "..") :
    t.find (p.child n) = t.follow (d.child n) [] := by
  have hd : t.follow d [] = .ok (d, .directory) := follow_place h
  rw [child_eq_below, find_below h, follow_cons, hd]
  exact step_of_ne hn

lemma leadsTo_here (t : FileTree) : t.LeadsTo .here .here := follow_nil t .here

lemma follow_nil_child (t : FileTree) (d : Path) (n : String) : t.follow (d.child n) [] =
    match t.at? (d.child n) with
    | some c => .ok (d.child n, c)
    | none => .error .missing := by
  rw [follow_nil, if_neg (by simp)]

lemma find_child_of_at? (h : t.LeadsTo p d) (hn : n ≠ "..") (hat : t.at? (d.child n) = some c) :
    t.find (p.child n) = .ok (d.child n, c) := by
  rw [find_child h hn, follow_nil_child, hat]

lemma holds_child_iff (h : t.LeadsTo p d) (hn : n ≠ "..") :
    t.holds (p.child n) ↔ (t.at? (d.child n)).isSome := by
  unfold holds
  rw [find_child h hn, follow_nil_child]
  cases t.at? (d.child n) <;> simp [Except.isOk, Except.toBool]

/-! ### Writing -/

lemma at?_set (t : FileTree) (q p : Path) (c : Content) :
    (t.set q c).at? p = if p = q then some c else t.at? p := by
  unfold set at?
  rw [List.find?_append]
  split_ifs with hpq
  · subst hpq
    have hnone : (t.entries.filter fun e => e.1 != p).find? (·.1 == p) = none := by
      rw [List.find?_eq_none]
      intro e he
      simpa using (List.mem_filter.1 he).2
    rw [hnone]
    simp
  · have hkeep : (t.entries.filter fun e => e.1 != q).find? (·.1 == p) =
        t.entries.find? (·.1 == p) := by
      rw [List.find?_filter]
      congr 1
      funext e
      by_cases hep : e.1 = p
      · simp [hep, hpq]
      · simp [hep]
    rw [hkeep]
    cases t.entries.find? (·.1 == p) with
    | some e => rfl
    | none => simp [Ne.symm hpq]

/-- A file that is put into the tree changes nothing but what is found at its own place. -/
lemma follow_set {new : Content} (hnew : new ≠ .directory) (hq : q.names ≠ [])
    (hdir : t.at? q ≠ some .directory) {x : Path} (hx : x ≠ q) :
    (t.set q new).follow p ns = .ok (x, c) ↔ t.follow p ns = .ok (x, c) := by
  induction ns generalizing p with
  | nil =>
    by_cases hpq : p = q
    · -- the place is that of the file
      constructor <;> intro h <;> exact absurd ((place_of_follow_nil h).trans hpq) hx
    · rw [follow_nil, follow_nil, at?_set, if_neg hpq]
  | cons n ns ih =>
    obtain ⟨p', hstep⟩ := exists_step p n
    rw [follow_cons, follow_cons, hstep, hstep]
    by_cases hpq : p = q
    · subst hpq
      have hne : ¬p.names.isEmpty := by simpa using hq
      rw [follow_nil, follow_nil, if_neg hne, if_neg hne, at?_set, if_pos rfl]
      constructor
      · intro h
        cases new with
        | directory => exact absurd rfl hnew
        | file bytes => cases h
        | rule r => cases h
        | locked => cases h
      · intro h
        cases hat : t.at? p with
        | none =>
          rw [hat] at h
          cases h
        | some c' =>
          rw [hat] at h
          cases c' with
          | directory => exact absurd hat hdir
          | file bytes => cases h
          | rule r => cases h
          | locked => cases h
    · have hsame : (t.set q new).follow p [] = t.follow p [] := by
        rw [follow_nil, follow_nil, at?_set, if_neg hpq]
      rw [hsame]
      cases t.follow p [] with
      | error f => exact Iff.rfl
      | ok found =>
        obtain ⟨-, c'⟩ := found
        cases c' with
        | directory => exact ih
        | file bytes => exact Iff.rfl
        | rule r => exact Iff.rfl
        | locked => exact Iff.rfl

lemma leadsTo_set {new : Content} (hnew : new ≠ .directory) (hq : q.names ≠ [])
    (hdir : t.at? q ≠ some .directory) : (t.set q new).LeadsTo p d ↔ t.LeadsTo p d := by
  by_cases hdq : d = q
  · subst hdq
    have hne : ¬d.names.isEmpty := by simpa using hq
    constructor <;> intro h
    · have hplace := follow_place h
      rw [follow_nil, if_neg hne, at?_set, if_pos rfl] at hplace
      exact absurd (Prod.mk.inj (Except.ok.inj hplace)).2 hnew
    · have hplace := follow_place h
      rw [follow_nil, if_neg hne] at hplace
      cases hat : t.at? d with
      | none =>
        rw [hat] at hplace
        cases hplace
      | some c =>
        rw [hat] at hplace
        cases hplace
        exact absurd hat hdir
  · exact follow_set hnew hq hdir hdq

/-- Below a directory nothing changes but what is found at the place of the file. -/
lemma find_set_below {new : Content} (hnew : new ≠ .directory) (hq : q.names ≠ [])
    (hdir : t.at? q ≠ some .directory) (hp : t.LeadsTo p d) (hns : Downward ns)
    (hne : d.below ns ≠ q) {x : Path} :
    (t.set q new).find (p.below ns) = .ok (x, c) ↔ t.find (p.below ns) = .ok (x, c) := by
  by_cases hx : x = q
  · have hp' : (t.set q new).LeadsTo p d := (leadsTo_set hnew hq hdir).2 hp
    constructor <;> intro h
    · exact absurd ((place_below hp' hns h).symm.trans hx) hne
    · exact absurd ((place_below hp hns h).symm.trans hx) hne
  · exact follow_set hnew hq hdir hx

/-- Where a file is put: in the directory of its path, at a place that is no directory. -/
lemma eq_set_of_place {new : Content} (hn : n ≠ "..")
    (h : t.place (p.child n) new = .ok t') : ∃ d, t.LeadsTo p d ∧
      t.at? (d.child n) ≠ some .directory ∧ t' = t.set (d.child n) new := by
  unfold place at h
  rw [parent_child, name_child] at h
  cases hfind : t.find (p.child n) with
  | ok found =>
    obtain ⟨q, c⟩ := found
    have hholds : t.holds (p.below ([] ++ [n])) := holds_iff.2 ⟨q, c, hfind⟩
    obtain ⟨d, hd⟩ := isDirectory_iff.1 (isDirectory_of_holds (by simp) hholds)
    rw [below_nil] at hd
    have hplace := find_child hd hn
    rw [hfind, follow_nil_child] at hplace
    refine ⟨d, hd, ?_⟩
    cases hat : t.at? (d.child n) with
    | none =>
      rw [hat] at hplace
      cases hplace
    | some c' =>
      rw [hat] at hplace
      cases hplace
      rw [hfind] at h
      cases c with
      | directory => cases h
      | file old =>
        cases h
        exact ⟨by simp, rfl⟩
      | rule r =>
        cases h
        exact ⟨by simp, rfl⟩
      | locked =>
        cases h
        exact ⟨by simp, rfl⟩
  | error f =>
    rw [hfind] at h
    cases f with
    | missing =>
      dsimp only at h
      split at h
      · next d hd =>
        cases h
        have hplace := find_child hd hn
        rw [hfind, follow_nil_child] at hplace
        refine ⟨d, hd, fun hat => ?_, rfl⟩
        rw [hat] at hplace
        cases hplace
      · cases h
      · cases h
    | denied => cases h
    | notDirectory => cases h
    | isDirectory => cases h

end FileTree

end TemplateLint
