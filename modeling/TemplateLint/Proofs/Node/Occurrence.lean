import Mathlib.Data.List.Flatten
import Mathlib.Data.List.Nodup
import Mathlib.Data.List.Perm.Basic
import TemplateLint.Proofs.Complete.Tree

/-!
The places of a tree at which its nodes occur.

The same node may stand at several places, so a place is told by the way that leads to it from the
root. Occurrences are listed as a generic traversal by fields comes to them: parents before their
children, and children in field order. Some fields are not walked, and what hangs below them is not
walked either. Main statements: `nodup_path_occurrences`, `map_node_occurrences`, `steps?_eq`.
-/

namespace TemplateLint

/-- The fields that are not walked: what is called, the key of a pair, the name of a macro. -/
def Link.leftOut (l : Link) : Bool :=
  (l.kind == .call && l.field == "node") || (l.kind == .pair && l.field == "key") ||
    (l.kind == .macroDef && l.field == "name")

/-- A node with the way that leads to it from the root. -/
structure Occurrence where
  path : List Link
  node : Node

namespace Occurrence

/-- Nothing on the way is left out. -/
def walked (o : Occurrence) : Bool := o.path.all (!·.leftOut)

/-- An occurrence hangs somewhere below another one. -/
def Below (o o' : Occurrence) : Prop := o'.path <+: o.path ∧ o.path ≠ o'.path

end Occurrence

namespace Node

/-- The occurrences below and including a node that is at the end of `path`, as far as the given
number of levels goes. -/
def occurrencesAt : Nat → List Link → Node → List Occurrence
  | 0, _, _ => []
  | levels + 1, path, n =>
    ⟨path, n⟩ :: n.links.flatMap fun c => occurrencesAt levels (path ++ [c.1]) c.2

/-- The occurrences in a tree, parents before their children, and children in field order. -/
def occurrences (n : Node) : List Occurrence := occurrencesAt n.height [] n

variable {n : Node} {levels : Nat} {path : List Link} {o : Occurrence}

/-! ### Links -/

lemma leftOut_mk (k : Kind) (name : String) (i : Nat) :
    Link.leftOut ⟨k, name, i⟩ = (some name == k.skipped?) := by
  have hne : (Kind.pair == .call) = false ∧ (Kind.pair == .macroDef) = false ∧
    (Kind.call == .pair) = false ∧ (Kind.call == .macroDef) = false := by decide
  cases k <;> simp [Link.leftOut, Kind.skipped?, hne]

lemma nodup_fieldNames (k : Kind) : k.fieldNames.Nodup := by cases k <;> decide

lemma leftOut_of_mem_linksIn {k : Kind} {f : String × Field} {c : Link × Node}
    (h : c ∈ linksIn k f) : c.1.leftOut = (some f.1 == k.skipped?) := by
  obtain ⟨x, -, rfl⟩ := List.mem_map.1 h
  exact leftOut_mk ..

lemma map_snd_links (n : Node) : n.links.map (·.2) = n.namedFields.flatMap (·.2.children) := by
  simp [links, List.map_flatMap]

lemma Complete.flatMap_namedFields (h : n.Complete) :
    n.namedFields.flatMap (·.2.children) = n.children := by
  obtain ⟨k, l, fs⟩ := n
  have hlength := (complete_mk.1 h).1
  have hsnd : ((k.fieldNames.zip fs).map (·.2)) = fs := List.map_snd_zip (Nat.le_of_eq hlength)
  rw [namedFields, children, kind_mk, fields_mk]
  conv_rhs => rw [← hsnd, List.flatMap_map]

lemma Complete.of_mem_children {c : Node} (h : n.Complete) (hc : c ∈ n.children) : c.Complete := by
  obtain ⟨k, l, fs⟩ := n
  obtain ⟨f, hf, hc⟩ := List.mem_flatMap.1 hc
  exact (complete_mk.1 h).2 f hf c hc

lemma mem_children_of_mem_links {c : Link × Node} (h : c ∈ n.links) : c.2 ∈ n.children := by
  have hmem : c.2 ∈ n.namedFields.flatMap (·.2.children) := by
    rw [← map_snd_links]
    exact List.mem_map_of_mem h
  obtain ⟨f, hf, hc⟩ := List.mem_flatMap.1 hmem
  exact List.mem_flatMap.2 ⟨f.2, mem_of_mem_namedFields hf, hc⟩

/-- No two children hang at one place. -/
lemma nodup_links (n : Node) : (n.links.map (·.1)).Nodup := by
  have hnames : n.namedFields.Pairwise fun f g => f.1 ≠ g.1 := by
    refine List.pairwise_iff_getElem.2 fun i j hi hj hij => ?_
    rw [namedFields, List.length_zip] at hi hj
    simp only [namedFields, List.getElem_zip]
    exact List.pairwise_iff_getElem.1 (nodup_fieldNames n.kind) i j (by omega) (by omega) hij
  have hfield : ∀ f : String × Field, ∀ l ∈ (linksIn n.kind f).map (·.1), l.field = f.1 := by
    intro f l hl
    obtain ⟨c, hc, rfl⟩ := List.mem_map.1 hl
    obtain ⟨x, -, rfl⟩ := List.mem_map.1 hc
    rfl
  rw [links, List.map_flatMap, List.nodup_flatMap]
  refine ⟨fun f _ => ?_, hnames.imp fun {f g} hne => ?_⟩
  · have hindex : (((linksIn n.kind f).map (·.1)).map Link.index).Nodup := by
      rw [linksIn, List.map_map, List.map_map]
      change (f.2.children.zipIdx.map (·.2)).Nodup
      rw [List.zipIdx_map_snd]
      exact List.nodup_range'
    exact hindex.of_map
  · refine List.disjoint_left.2 fun l hf hg => ?_
    exact hne ((hfield f l hf).symm.trans (hfield g l hg))

/-! ### Occurrences -/

/-- Where the way begins is where it goes on. -/
lemma prefix_of_mem_occurrencesAt (h : o ∈ occurrencesAt levels path n) : path <+: o.path := by
  induction levels generalizing path n with
  | zero => cases h
  | succ levels ih =>
    rcases List.mem_cons.1 h with rfl | h
    · exact List.prefix_rfl
    · obtain ⟨c, -, h⟩ := List.mem_flatMap.1 h
      exact (List.prefix_append ..).trans (ih h)

lemma Complete.of_mem_occurrencesAt (h : n.Complete) (ho : o ∈ occurrencesAt levels path n) :
    o.node.Complete := by
  induction levels generalizing path n with
  | zero => cases ho
  | succ levels ih =>
    rcases List.mem_cons.1 ho with rfl | ho
    · exact h
    · obtain ⟨c, hc, ho⟩ := List.mem_flatMap.1 ho
      exact ih (h.of_mem_children (mem_children_of_mem_links hc)) ho

/-- A way goes on with one link only. -/
lemma link_unique {l l' : Link} {p : List Link} (h : path ++ [l] <+: p)
    (h' : path ++ [l'] <+: p) : l = l' := by
  have heq : path ++ [l] = path ++ [l'] := by
    rcases List.prefix_or_prefix_of_prefix h h' with h | h
    · exact h.eq_of_length (by simp)
    · exact (h.eq_of_length (by simp)).symm
  simpa using heq

lemma nodup_path_occurrencesAt (levels : Nat) (path : List Link) (n : Node) :
    ((occurrencesAt levels path n).map (·.path)).Nodup := by
  induction levels generalizing path n with
  | zero => exact List.nodup_nil
  | succ levels ih =>
    have hchild : ∀ c : Link × Node, ∀ p ∈ (occurrencesAt levels (path ++ [c.1]) c.2).map (·.path),
        path ++ [c.1] <+: p := by
      intro c p hp
      obtain ⟨o, ho, rfl⟩ := List.mem_map.1 hp
      exact prefix_of_mem_occurrencesAt ho
    rw [occurrencesAt, List.map_cons, List.nodup_cons, List.map_flatMap, List.nodup_flatMap]
    refine ⟨fun hmem => ?_, fun c _ => ih .., ?_⟩
    · obtain ⟨c, -, hc⟩ := List.mem_flatMap.1 hmem
      have := (hchild c path hc).length_le
      rw [List.length_append, List.length_singleton] at this
      omega
    · refine (List.pairwise_map.1 (nodup_links n)).imp fun {c d} hne => ?_
      refine List.disjoint_left.2 fun p hc hd => ?_
      exact hne (link_unique (hchild c p hc) (hchild d p hd))

/-- **Different occurrences have different ways.** -/
theorem nodup_path_occurrences (n : Node) : (n.occurrences.map (·.path)).Nodup :=
  nodup_path_occurrencesAt ..

/-- **The nodes of a complete tree, as they occur, are the root and what is below it.** -/
theorem map_node_occurrences (h : n.Complete) :
    n.occurrences.map (·.node) = n :: n.descendants := by
  have hat : ∀ levels path (n : Node), n.Complete → n.height ≤ levels →
      (occurrencesAt levels path n).map (·.node) = n :: under levels n := by
    intro levels
    induction levels with
    | zero =>
      intro path n _ hn
      obtain ⟨k, l, fs⟩ := n
      simp [height] at hn
    | succ levels ih =>
      intro path n hcomplete hn
      have hchildren : n.links.map (·.2) = n.children := by
        rw [map_snd_links, hcomplete.flatMap_namedFields]
      rw [occurrencesAt, under, ← hchildren, List.map_cons, List.map_flatMap, List.flatMap_map]
      congr 1
      refine List.flatMap_congr fun c hc => ?_
      have hmem := mem_children_of_mem_links hc
      have hlt := height_lt_of_mem_children hmem
      exact ih _ c.2 (hcomplete.of_mem_children hmem) (by omega)
  exact hat n.height [] n h (Nat.le_refl _)

/-! ### What is walked -/

/-- The links that are walked. -/
def walkedLinks (n : Node) : List (Link × Node) := n.links.filter (!·.1.leftOut)

/-- **The walk goes to the children in field order, apart from those that are left out.** -/
theorem steps?_eq {cs : List (Link × Node)} (h : n.steps? = some cs) : cs = n.walkedLinks := by
  have hfields : ∀ fs : List (String × Field),
      (fs.filter fun f => some f.1 != n.kind.skipped?).flatMap (linksIn n.kind) =
        (fs.flatMap (linksIn n.kind)).filter (!·.1.leftOut) := by
    intro fs
    induction fs with
    | nil => rfl
    | cons f fs ih =>
      have hleft : ∀ c ∈ linksIn n.kind f, (!c.1.leftOut) = (some f.1 != n.kind.skipped?) :=
        fun c hc => congrArg (!·) (leftOut_of_mem_linksIn hc)
      rw [List.flatMap_cons, List.filter_append, ← ih, List.filter_congr hleft]
      cases hf : some f.1 != n.kind.skipped? with
      | true => simp [hf]
      | false => simp [hf]
  unfold steps? at h
  split at h
  · cases h
  · obtain rfl := Option.some.inj h
    exact hfields n.namedFields

/-! ### Sums with many signs -/

def summand : Node := .mk .name (some 1) [.text "a", .text "load"]

/-- A sum with the given number of signs, as `a + a + a` is read: the first two names are the
furthest down. -/
def sum : Nat → Node
  | 0 => summand
  | n + 1 => .mk .add (some 1) [.node (sum n), .node summand]

lemma complete_sum (n : Nat) : (sum n).Complete := by
  induction n with
  | zero => simp [sum, summand, Kind.fieldNames]
  | succ n ih => simp [sum, summand, Kind.fieldNames, ih]

lemma height_sum (n : Nat) : (sum n).height = n + 1 := by
  induction n with
  | zero => rfl
  | succ n ih => simp [sum, summand, height, heightFields, heightField, ih]

lemma links_sum (n : Nat) : (sum (n + 1)).links =
    [(⟨.add, "left", 0⟩, sum n), (⟨.add, "right", 0⟩, summand)] := by
  simp [sum, links, linksIn, namedFields, Kind.fieldNames, Field.children]

/-- In a sum there is a name as far down as there are signs. -/
lemma exists_occurrence_sum (n : Nat) (path : List Link) (hp : path.all (!·.leftOut)) :
    ∃ o ∈ occurrencesAt (n + 1) path (sum n), o.walked ∧ o.path.length = path.length + n := by
  induction n generalizing path with
  | zero => exact ⟨⟨path, summand⟩, .head _, hp, rfl⟩
  | succ n ih =>
    have hp' : (path ++ [(⟨.add, "left", 0⟩ : Link)]).all (!·.leftOut) := by
      rw [List.all_append, hp]
      rfl
    obtain ⟨o, ho, hw, hlength⟩ := ih _ hp'
    refine ⟨o, ?_, hw, by simpa [Nat.add_assoc, Nat.add_comm 1] using hlength⟩
    rw [occurrencesAt, links_sum]
    exact List.mem_cons_of_mem _ (List.mem_flatMap.2 ⟨_, .head _, ho⟩)

lemma exists_mem_occurrences_sum (n : Nat) :
    ∃ o ∈ (sum n).occurrences, o.walked ∧ o.path.length = n := by
  obtain ⟨o, ho, hw, hlength⟩ := exists_occurrence_sum n [] rfl
  refine ⟨o, ?_, hw, by simpa using hlength⟩
  rw [occurrences, height_sum]
  exact ho

end Node

end TemplateLint
