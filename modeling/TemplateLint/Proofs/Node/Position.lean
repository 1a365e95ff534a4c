import Mathlib.Data.List.Chain
import TemplateLint.Category
import TemplateLint.Proofs.Node.Occurrence

/-!
The positions of a tree, as its categories are listed by them.

A position is a node with the way that leads to it: the fields, and the places in a list where a
field holds one. Positions come with parents before their children, so every way goes on from
somewhere on the way before it, and its depth and its last step are enough to tell it. Main
statements: `map_positions`, `positions_eq`, `ways_unique`.
-/

namespace TemplateLint

/-- Where a node hangs below its parent: a field, and the place in the list if it holds one. -/
structure Place where
  field : String
  index : Option Nat
deriving DecidableEq, Repr

namespace Place

def text (p : Place) : String :=
  match p.index with
  | none => p.field
  | some i => s!"{p.field}:{i}"

end Place

/-- A node with the way that leads to it from the root. -/
structure Position where
  way : List Place
  node : Node

/-- A position that is seen from one step before. -/
def Position.behind (p : Place) (o : Position) : Position := { o with way := p :: o.way }

/-- A way that comes after another one goes on from somewhere on that one. -/
structure Follows (p q : List Place) : Prop where
  ne_nil : q ≠ []
  start : q.dropLast <+: p

namespace Node

def placedIn (name : String) : Field → List (Place × Node)
  | .node n => [(⟨name, none⟩, n)]
  | .list items =>
    items.zipIdx.filterMap fun (f, i) => f.node?.map fun n => (⟨name, some i⟩, n)
  | _ => []

def placed (n : Node) : List (Place × Node) := n.namedFields.flatMap fun f => placedIn f.1 f.2

/-- The positions below and including a node that is at the end of `way`, as far as the given
number of levels goes. -/
def positionsAt : Nat → List Place → Node → List Position
  | 0, _, _ => []
  | levels + 1, way, n =>
    ⟨way, n⟩ :: n.placed.flatMap fun c => positionsAt levels (way ++ [c.1]) c.2

def positions (n : Node) : List Position := positionsAt n.height [] n

variable {n : Node} {f : Field} {name : String} {levels : Nat} {way p q : List Place}
  {o : Position} {c : Place × Node} {cs : List (Place × Node)}

/-! ### Children with their places -/

lemma placesIn_eq (name : String) (f : Field) :
    placesIn name f = (placedIn name f).map fun c => (c.1.text, c.2) := by
  cases f with
  | node n => rfl
  | list items =>
    simp only [placesIn, placedIn, List.map_filterMap, Option.map_map]
    rfl
  | value v => rfl
  | float text => rfl

lemma places_eq (n : Node) : n.places = n.placed.map fun c => (c.1.text, c.2) := by
  simp only [places, placed, List.map_flatMap, ← placesIn_eq]

lemma map_snd_placedIn (name : String) (f : Field) :
    (placedIn name f).map (·.2) = f.children := by
  cases f with
  | node n => rfl
  | list items =>
    have hitem : ∀ item : Field × Nat,
        (item.1.node?.map fun n => ((⟨name, some item.2⟩, n) : Place × Node)).map (·.2) =
          item.1.node? := by
      rintro ⟨item, i⟩
      cases item <;> rfl
    rw [placedIn, List.map_filterMap, Field.children]
    conv_rhs => rw [← List.zipIdx_map_fst 0 items, List.filterMap_map]
    exact List.filterMap_congr fun item _ => hitem item
  | value v => rfl
  | float text => rfl

/-- The children are those of a generic traversal. -/
lemma map_snd_placed (n : Node) : n.placed.map (·.2) = n.links.map (·.2) := by
  simp only [placed, map_snd_links, List.map_flatMap, map_snd_placedIn]

lemma field_of_mem_placedIn (h : c ∈ placedIn name f) : c.1.field = name := by
  cases f with
  | node n =>
    obtain rfl := List.mem_singleton.1 h
    rfl
  | list items =>
    obtain ⟨item, -, hitem⟩ := List.mem_filterMap.1 h
    obtain ⟨n, -, rfl⟩ := Option.map_eq_some_iff.1 hitem
    rfl
  | value v => cases h
  | float text => cases h

/-- The place of a child has the name of a field. -/
lemma field_mem_of_mem_placed (h : c ∈ n.placed) : c.1.field ∈ n.kind.fieldNames := by
  obtain ⟨f, hf, hc⟩ := List.mem_flatMap.1 h
  rw [field_of_mem_placedIn hc]
  exact (List.of_mem_zip hf).1

/-! ### Positions -/

/-- **Positions are occurrences**: the same nodes come in the same order and at the same depth. -/
theorem map_positionsAt {path : List Link} (h : way.length = path.length) :
    (positionsAt levels way n).map (fun o => (o.way.length, o.node)) =
      (occurrencesAt levels path n).map fun o => (o.path.length, o.node) := by
  induction levels generalizing way path n with
  | zero => rfl
  | succ levels ih =>
    have hbelow : ∀ (cs : List (Place × Node)) (ls : List (Link × Node)),
        cs.map (·.2) = ls.map (·.2) →
          (cs.flatMap fun c => (positionsAt levels (way ++ [c.1]) c.2).map
            fun o => (o.way.length, o.node)) =
          ls.flatMap fun l => (occurrencesAt levels (path ++ [l.1]) l.2).map
            fun o => (o.path.length, o.node) := by
      intro cs ls hsame
      induction cs generalizing ls with
      | nil =>
        obtain rfl : ls = [] := by simpa using hsame.symm
        rfl
      | cons c cs ihcs =>
        obtain ⟨l, ls, rfl, hnode, hrest⟩ := List.map_eq_cons_iff.1 hsame.symm
        have hlength : (way ++ [c.1]).length = (path ++ [l.1]).length := by simp [h]
        rw [List.flatMap_cons, List.flatMap_cons, hnode, ih hlength, ihcs ls hrest.symm]
    simp only [positionsAt, occurrencesAt, List.map_cons, List.map_flatMap, h]
    rw [hbelow _ _ (map_snd_placed n)]

theorem map_positions (n : Node) : n.positions.map (fun o => (o.way.length, o.node)) =
    n.occurrences.map fun o => (o.path.length, o.node) := map_positionsAt rfl

/-- What holds where the way begins, and further on with each child, holds at all positions. -/
theorem position_induction {P : List Place → Node → Prop} (hroot : P way n)
    (hchild : ∀ way n, P way n → ∀ c ∈ n.placed, P (way ++ [c.1]) c.2)
    (ho : o ∈ positionsAt levels way n) : P o.way o.node := by
  induction levels generalizing way n with
  | zero => cases ho
  | succ levels ih =>
    rcases List.mem_cons.1 ho with rfl | ho
    · exact hroot
    · obtain ⟨c, hc, ho⟩ := List.mem_flatMap.1 ho
      exact ih (hchild way n hroot c hc) ho

lemma prefix_of_mem_positionsAt (h : o ∈ positionsAt levels way n) : way <+: o.way :=
  position_induction (P := fun w _ => way <+: w) List.prefix_rfl
    (fun w _ hw c _ => hw.trans (List.prefix_append w [c.1])) h

lemma height_pos (n : Node) : 0 < n.height := by
  obtain ⟨k, l, fs⟩ := n
  exact Nat.succ_pos _

lemma height_lt_of_mem_placed (h : c ∈ n.placed) : c.2.height < n.height := by
  have hmem : c.2 ∈ n.links.map (·.2) := by
    rw [← map_snd_placed]
    exact List.mem_map_of_mem h
  obtain ⟨l, hl, hnode⟩ := List.mem_map.1 hmem
  rw [← hnode]
  exact height_lt_of_mem_children (mem_children_of_mem_links hl)

lemma positionsAt_of_le {levels' : Nat} (h : n.height ≤ levels) (h' : n.height ≤ levels') :
    positionsAt levels way n = positionsAt levels' way n := by
  have hpos := n.height_pos
  induction levels generalizing levels' way n with
  | zero => omega
  | succ levels ih =>
    cases levels' with
    | zero => omega
    | succ levels' =>
      rw [positionsAt, positionsAt]
      congr 1
      refine List.flatMap_congr fun c hc => ?_
      have hlt := height_lt_of_mem_placed hc
      exact ih (by omega) (by omega) c.2.height_pos

lemma positionsAt_cons (p : Place) (way : List Place) (n : Node) :
    positionsAt levels (p :: way) n = (positionsAt levels way n).map (·.behind p) := by
  induction levels generalizing way n with
  | zero => rfl
  | succ levels ih =>
    rw [positionsAt, positionsAt, List.map_cons, List.map_flatMap]
    congr 1
    exact List.flatMap_congr fun c _ => ih (way ++ [c.1]) c.2

/-- **The positions of a tree** are its root and those of its children, seen one step before. -/
theorem positions_eq (n : Node) : n.positions =
    ⟨[], n⟩ :: n.placed.flatMap fun c => c.2.positions.map (·.behind c.1) := by
  obtain ⟨levels, hlevels⟩ := Nat.exists_eq_succ_of_ne_zero n.height_pos.ne'
  rw [positions, hlevels, positionsAt]
  congr 1
  refine List.flatMap_congr fun c hc => ?_
  have hlt := height_lt_of_mem_placed hc
  rw [List.nil_append, positionsAt_cons, positions, positionsAt_of_le (by omega) le_rfl]

/-- Groups of ways come one behind the other if all begin alike, and each could come behind any way
that begins so. -/
lemma isChain_flatMap {α : Type} {ways : α → List (List Place)} {xs : List α}
    (hgroup : ∀ x ∈ xs, ∀ p, way <+: p → (p :: ways x).IsChain Follows)
    (hbegin : ∀ x ∈ xs, ∀ q ∈ ways x, way <+: q) (hp : way <+: p) :
    (p :: xs.flatMap ways).IsChain Follows := by
  induction xs generalizing p with
  | nil => exact List.isChain_singleton p
  | cons x xs ih =>
    obtain ⟨hx, hxs⟩ := List.forall_mem_cons.1 hgroup
    obtain ⟨hbegin, hbegins⟩ := List.forall_mem_cons.1 hbegin
    rw [List.flatMap_cons, ← List.cons_append]
    refine List.isChain_append.2 ⟨hx p hp, (ih hxs hbegins hp).tail, fun q hq r hr => ?_⟩
    have hq' : way <+: q := by
      rcases List.mem_cons.1 (List.mem_of_getLast? hq) with rfl | hq
      · exact hp
      · exact hbegin q hq
    exact (List.isChain_cons.1 (ih hxs hbegins hq')).1 r hr

/-- Every way goes on from somewhere on the way before it. -/
lemma isChain_positionsAt : ((positionsAt levels way n).map (·.way)).IsChain Follows := by
  induction levels generalizing way n with
  | zero => exact List.isChain_nil
  | succ levels ih =>
    rw [positionsAt, List.map_cons, List.map_flatMap]
    refine isChain_flatMap (fun c _ p hp => ?_) (fun c _ q hq => ?_) List.prefix_rfl
    · refine List.isChain_cons.2 ⟨fun q hq => ?_, ih⟩
      cases levels with
      | zero => cases hq
      | succ levels =>
        obtain rfl : way ++ [c.1] = q := by simpa [positionsAt] using hq
        exact ⟨by simp, by simpa using hp⟩
    · obtain ⟨o, ho, rfl⟩ := List.mem_map.1 hq
      exact (List.prefix_append ..).trans (prefix_of_mem_positionsAt ho)

/-- A way that comes after another one is known from its depth and its last step. -/
lemma follows_unique {q' : List Place} (h : Follows p q) (h' : Follows p q')
    (hlength : q.length = q'.length) (hlast : q.getLast? = q'.getLast?) : q = q' := by
  have hinit : q.dropLast = q'.dropLast := by
    rw [List.prefix_iff_eq_take.1 h.start, List.prefix_iff_eq_take.1 h'.start,
      List.length_dropLast, List.length_dropLast, hlength]
  rw [List.getLast?_eq_some_getLast h.ne_nil, List.getLast?_eq_some_getLast h'.ne_nil,
    Option.some.injEq] at hlast
  calc q = q.dropLast ++ [q.getLast h.ne_nil] := (List.dropLast_append_getLast h.ne_nil).symm
    _ = q'.dropLast ++ [q'.getLast h'.ne_nil] := by rw [hinit, hlast]
    _ = q' := List.dropLast_append_getLast h'.ne_nil

/-- **Ways that follow one another** are known from their depths and their last steps. -/
theorem ways_unique {ps qs : List (List Place)} (hps : (p :: ps).IsChain Follows)
    (hqs : (p :: qs).IsChain Follows)
    (h : ps.map (fun q => (q.length, q.getLast?)) = qs.map fun q => (q.length, q.getLast?)) :
    ps = qs := by
  induction ps generalizing p qs with
  | nil => exact (List.map_eq_nil_iff.1 h.symm).symm
  | cons q ps ih =>
    cases qs with
    | nil => simp at h
    | cons q' qs =>
      simp only [List.map_cons, List.cons.injEq, Prod.mk.injEq] at h
      obtain ⟨⟨hlength, hlast⟩, hrest⟩ := h
      obtain ⟨hq, hps⟩ := List.isChain_cons_cons.1 hps
      obtain ⟨hq', hqs⟩ := List.isChain_cons_cons.1 hqs
      obtain rfl := follows_unique hq hq' hlength hlast
      rw [ih hps hqs hrest]

end Node

end TemplateLint
