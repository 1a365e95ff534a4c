import Mathlib.Data.List.Basic
import TemplateLint.Walk

/-!
Complete trees: every node has values for all fields of its kind. A walk through a complete tree
never comes to a node with fields unset. Main statement: `unset_not_mem_moments`.
-/

namespace TemplateLint

namespace Node

/-- A node with values for all fields of its kind, and so are the nodes below it. -/
inductive Complete : Node → Prop
  | mk {k : Kind} {l : Option Int} {fs : List Field} (hlength : fs.length = k.fieldNames.length)
    (h : ∀ f ∈ fs, ∀ c ∈ f.children, Complete c) : Complete (.mk k l fs)

end Node

/-- A value with complete nodes. -/
def Field.Complete (f : Field) : Prop := ∀ c ∈ f.children, c.Complete

namespace Field

@[simp] lemma complete_node {n : Node} : (Field.node n).Complete ↔ n.Complete :=
  List.forall_mem_singleton

@[simp] lemma complete_value (v : Json) : (Field.value v).Complete := List.forall_mem_nil _

@[simp] lemma complete_float (s : String) : (Field.float s).Complete := List.forall_mem_nil _

@[simp] lemma complete_list {items : List Field} :
    (Field.list items).Complete ↔ ∀ n, .node n ∈ items → n.Complete := by
  refine ⟨fun h n hn => h n (List.mem_filterMap.2 ⟨_, hn, rfl⟩), fun h c hc => ?_⟩
  obtain ⟨f, hf, hc⟩ := List.mem_filterMap.1 hc
  cases f <;> cases hc
  exact h c hf

@[simp] lemma complete_nodes {ns : List Node} :
    (Field.nodes ns).Complete ↔ ∀ n ∈ ns, n.Complete := by
  simp [nodes]

@[simp] lemma complete_ofOption {n : Option Node} :
    (Field.ofOption n).Complete ↔ ∀ m ∈ n, m.Complete := by
  cases n <;> simp [ofOption]

end Field

namespace Node

@[simp] lemma complete_mk {k : Kind} {l : Option Int} {fs : List Field} :
    (Node.mk k l fs).Complete ↔
      fs.length = k.fieldNames.length ∧ ∀ f ∈ fs, f.Complete := by
  refine ⟨fun h => ?_, fun h => .mk h.1 h.2⟩
  cases h with
  | mk hlength h => exact ⟨hlength, h⟩

lemma withRoleFields_eq (role : String) (fs : List Field) :
    withRoleFields role fs = fs.map (withRoleField role) := by
  induction fs with
  | nil => rfl
  | cons f fs ih => rw [withRoleFields, ih, List.map_cons]

/-- The nodes in a value in which names get a role are those that were there, with the role. -/
lemma children_withRoleField (role : String) (f : Field) :
    (withRoleField role f).children = f.children.map (withRole role) := by
  cases f with
  | list items =>
    rw [withRoleField, withRoleFields_eq, Field.children, Field.children, List.filterMap_map,
      List.map_filterMap]
    refine List.filterMap_congr fun g _ => ?_
    cases g <;> rfl
  | _ => rfl

lemma Complete.withRole {n : Node} (h : n.Complete) (role : String) :
    (n.withRole role).Complete := by
  induction h with
  | @mk k l fs hlength _ ih =>
    have hfields : ∀ f ∈ withRoleFields role fs, f.Complete := by
      intro f hf c hc
      rw [withRoleFields_eq] at hf
      obtain ⟨g, hg, rfl⟩ := List.mem_map.1 hf
      rw [children_withRoleField] at hc
      obtain ⟨n, hn, rfl⟩ := List.mem_map.1 hc
      exact ih g hg n hn
    have hsame : (withRoleFields role fs).length = k.fieldNames.length := by
      rw [withRoleFields_eq, List.length_map, hlength]
    rw [Node.withRole, complete_mk]
    cases roleIndex? k with
    | none => exact ⟨hsame, hfields⟩
    | some i =>
      refine ⟨by simpa using hsame, fun f hf => ?_⟩
      rcases List.mem_or_eq_of_mem_set hf with hf | rfl
      · exact hfields f hf
      · simp

lemma fieldNames_ne_nil_of_isStrict {k : Kind} (h : k.isStrict) : k.fieldNames ≠ [] := by
  revert h
  cases k <;> decide

@[simp] lemma map_snd_linksIn (k : Kind) (f : String × Field) :
    (linksIn k f).map (·.2) = f.2.children := by
  rw [linksIn, List.map_map]
  exact List.zipIdx_map_fst ..

lemma mem_of_mem_namedFields {n : Node} {x : String × Field} (h : x ∈ n.namedFields) :
    x.2 ∈ n.fields :=
  (List.of_mem_zip h).2

/-- The walked children of a complete node are there, and they are complete. -/
lemma Complete.steps {n : Node} (h : n.Complete) :
    ∃ cs, n.steps? = some cs ∧ ∀ c ∈ cs, c.2.Complete := by
  cases h with
  | @mk k l fs hlength h =>
    have hset : ¬ (k.isStrict && fs.isEmpty) := by
      intro hunset
      simp only [Bool.and_eq_true, List.isEmpty_iff] at hunset
      rw [hunset.2] at hlength
      exact fieldNames_ne_nil_of_isStrict hunset.1 (List.length_eq_zero_iff.1 hlength.symm)
    refine ⟨_, if_neg hset, fun c hc => ?_⟩
    obtain ⟨x, hx, hc⟩ := List.mem_flatMap.1 hc
    have hchild : c.2 ∈ x.2.children := by
      rw [← map_snd_linksIn k x]
      exact List.mem_map_of_mem hc
    exact h x.2 (mem_of_mem_namedFields (List.mem_filter.1 hx).1) c.2 hchild

end Node

namespace Walk

/-- **A walk through a complete tree comes to no node with fields unset.** -/
theorem unset_not_mem_moments {v : Visit} (h : v.node.Complete) (levels : Nat) (kind : Kind) :
    .unset kind ∉ moments levels v := by
  induction levels generalizing v with
  | zero => simp [moments]
  | succ levels ih =>
    obtain ⟨cs, hcs, hcomplete⟩ := h.steps
    simp only [moments, hcs, List.mem_cons, List.mem_append, List.mem_flatMap, reduceCtorEq,
      false_or, List.not_mem_nil, or_false]
    rintro ⟨c, hc, hunset⟩
    exact ih (hcomplete c hc) hunset

end Walk

end TemplateLint
