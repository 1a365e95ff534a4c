import Mathlib.Logic.Function.Iterate
import TemplateLint.Proofs.Discovery.Ignore

/-!
The search for patterns, upwards from a file.

The search goes from the directory of a file to its parent, again and again, until it comes to the
target or to the top. The target may never come, but the top does, since every step drops a name. So
the search ends, and it has been at every directory above the file that is not above the target.
Main statement: `search_exact`.
-/

namespace TemplateLint

open TemplateLint.Path

variable {file target dir d p : Path}

/-! ### Steps upwards -/

namespace Path

lemma parent_eq_self_iff : p.parent = p ↔ p.names = [] := by
  constructor
  · intro h
    have hlength := congrArg (fun q => q.names.length) h
    simp only [parent, List.length_dropLast] at hlength
    exact List.length_eq_zero_iff.1 (by omega)
  · intro h
    simp only [parent, h, List.dropLast_nil]
    rw [← h]

lemma length_names_parent (p : Path) : p.parent.names.length = p.names.length - 1 :=
  List.length_dropLast ..

end Path

namespace Ignore

/-! ### The directories of a search -/

/-- Where a search ends: at the target and at the top. -/
def Ends (target d : Path) : Prop := d = target ∨ d.parent = d

/-- A search comes to a directory if it leads upwards there without leaving the target behind. -/
def Reaches (target dir d : Path) : Prop :=
  ∃ k, d = parent^[k] dir ∧ ∀ j < k, parent^[j] dir ≠ target

lemma upward_of_ends (h : Ends target dir) : upward target dir = [dir] := by
  rw [upward, if_pos (h.imp_right parent_eq_self_iff.1)]

lemma upward_of_not_ends (h : ¬Ends target dir) :
    upward target dir = dir :: upward target dir.parent := by
  rw [upward, if_neg fun hend => h (hend.imp_right parent_eq_self_iff.2)]

/-- **A search ends**, after no more steps than there are names, and it goes one step up at a time
until then. -/
theorem exists_upward_eq (target dir : Path) : ∃ k ≤ dir.names.length,
    Ends target (parent^[k] dir) ∧ (∀ j < k, ¬Ends target (parent^[j] dir)) ∧
      upward target dir = (List.range (k + 1)).map fun j => parent^[j] dir := by
  induction hn : dir.names.length using Nat.strong_induction_on generalizing dir with
  | _ n ih =>
    by_cases hend : Ends target dir
    · exact ⟨0, Nat.zero_le n, hend, by simp, upward_of_ends hend⟩
    · -- there is a name to drop, so that the rest of the search is shorter
      have hnames : dir.names ≠ [] := fun h => hend (.inr (parent_eq_self_iff.2 h))
      have hpos : 0 < n := hn ▸ List.length_pos_iff.2 hnames
      have hparent : dir.parent.names.length = n - 1 := by rw [length_names_parent, hn]
      obtain ⟨k, hk, hlast, hbefore, heq⟩ := ih (n - 1) (by omega) dir.parent hparent
      refine ⟨k + 1, by omega, hlast, fun j hj => ?_, ?_⟩
      · cases j with
        | zero => exact hend
        | succ j => exact hbefore j (by omega)
      · rw [upward_of_not_ends hend, heq, List.range_succ_eq_map (n := k + 1), List.map_cons,
          List.map_map]
        rfl

/-- The directories of a search are those that it leads to. -/
theorem mem_upward_iff_reaches : d ∈ upward target dir ↔ Reaches target dir d := by
  obtain ⟨k, -, hlast, hbefore, heq⟩ := exists_upward_eq target dir
  simp only [heq, List.mem_map, List.mem_range]
  constructor
  · rintro ⟨j, hj, rfl⟩
    exact ⟨j, rfl, fun i hi htarget => hbefore i (by omega) (.inl htarget)⟩
  · rintro ⟨j, rfl, hpassed⟩
    rcases Nat.lt_or_ge j (k + 1) with hj | hj
    · exact ⟨j, hj, rfl⟩
    · -- the search has ended before, and not at the target
      have htop := hlast.resolve_left (hpassed k (by omega))
      obtain ⟨i, rfl⟩ := Nat.exists_eq_add_of_le (show k ≤ j by omega)
      refine ⟨k, by omega, ?_⟩
      rw [Nat.add_comm, Function.iterate_add_apply, Function.iterate_fixed htop]

/-- **A file is left out exactly if a pattern says so**: one that is given, as seen from the target,
or one that is listed for a directory that the search comes to, as seen from there. For whatever
paths, the search comes to an end. -/
theorem search_exact (file target : Path) (given : List String) (map : IgnoreMap) :
    (∃ k ≤ file.names.length, Ends target (parent^[k] file.parent) ∧
      upward target file.parent = (List.range (k + 1)).map fun j => parent^[j] file.parent) ∧
    (ignores file target given map ↔ (∃ g ∈ given, Pattern.Matches file g target) ∨
      ∃ d, Reaches target file.parent d ∧ ∃ g ∈ map.get d, Pattern.Matches file g d) := by
  constructor
  · obtain ⟨k, hk, hlast, -, heq⟩ := exists_upward_eq target file.parent
    have hle := length_names_parent file
    exact ⟨k, by omega, hlast, heq⟩
  · rw [ignores_iff]
    simp only [mem_upward_iff_reaches]

end Ignore

end TemplateLint
