import TemplateLint.Json.Basic
import TemplateLint.Node.Kind

/-!
Template trees. A node has a kind, a line, if one is known, and the values of its kind's fields, in
the order of `Kind.fieldNames`; a node without values has its fields unset.

Main statement: a child is lower than its parent (`height_lt_of_mem_children`), so whatever goes
through a tree by its children is bounded by the tree's height.
-/

namespace TemplateLint

mutual

inductive Node where
  | mk (kind : Kind) (line : Option Int) (fields : List Field)

inductive Field where
  | node (n : Node)
  | list (items : List Field)
  | value (v : Json)
  /-- A floating-point constant, as it was written. -/
  | float (text : String)

end

instance : Inhabited Node := ⟨.mk .template none []⟩
instance : Inhabited Field := ⟨.value .null⟩

/-- Where a node hangs below its parent: the parent's kind, the field, and the place among the nodes
in the field. The same node may hang at several places. -/
structure Link where
  kind : Kind
  field : String
  index : Nat
deriving DecidableEq, Repr

namespace Field

abbrev null : Field := .value .null

abbrev text (s : String) : Field := .value (.str s)

abbrev bool (b : Bool) : Field := .value (.bool b)

def nodes (ns : List Node) : Field := .list (ns.map .node)

def ofOption : Option Node → Field
  | some n => .node n
  | none => .null

def node? : Field → Option Node
  | .node n => some n
  | _ => none

/-- The nodes that a field holds directly or in its list. -/
def children : Field → List Node
  | .node n => [n]
  | .list items => items.filterMap node?
  | _ => []

end Field

namespace Node

def kind : Node → Kind
  | .mk k _ _ => k

def line : Node → Option Int
  | .mk _ l _ => l

def fields : Node → List Field
  | .mk _ _ fs => fs

@[simp] theorem kind_mk (k : Kind) (l : Option Int) (fs : List Field) : (mk k l fs).kind = k := rfl
@[simp] theorem line_mk (k : Kind) (l : Option Int) (fs : List Field) : (mk k l fs).line = l := rfl
@[simp] theorem fields_mk (k : Kind) (l : Option Int) (fs : List Field) :
    (mk k l fs).fields = fs := rfl

/-- The fields that are set, with their names. -/
def namedFields (n : Node) : List (String × Field) := n.kind.fieldNames.zip n.fields

def field? (n : Node) (name : String) : Option Field :=
  (n.namedFields.find? (·.1 == name)).map (·.2)

/-- The text in a field, if the field holds one. -/
def text? (n : Node) (name : String) : Option String :=
  match n.field? name with
  | some (.value (.str s)) => some s
  | _ => none

/-- The nodes in the fields of a node, in field order. -/
def children (n : Node) : List Node := n.fields.flatMap Field.children

/-- The nodes that a field holds, with their links. -/
def linksIn (k : Kind) (f : String × Field) : List (Link × Node) :=
  f.2.children.zipIdx.map fun c => (⟨k, f.1, c.2⟩, c.1)

/-- The children of a node with their links, in field order. -/
def links (n : Node) : List (Link × Node) := n.namedFields.flatMap (linksIn n.kind)

/-- A fault of a node that is put together by hand. -/
inductive BuildFault where
  | fieldCount (kind : Kind)
  | reserved (kind : Kind)
  | family (kind : Kind)
deriving DecidableEq, Repr

/-- A node with all of its kind's fields, or with none of them. -/
def build (kind : Kind) (line : Option Int) (fields : List Field) : Except BuildFault Node :=
  if kind.isFamily then .error (.family kind)
  else if kind = .internalName then .error (.reserved kind)
  else if fields.isEmpty || fields.length = kind.fieldNames.length then .ok (.mk kind line fields)
  else .error (.fieldCount kind)

mutual

/-- The number of levels below and including a node. -/
def height : Node → Nat
  | .mk _ _ fs => heightFields fs + 1

def heightField : Field → Nat
  | .node n => n.height
  | .list items => heightFields items
  | .value _ => 0
  | .float _ => 0

def heightFields : List Field → Nat
  | [] => 0
  | f :: fs => max (heightField f) (heightFields fs)

end

theorem heightField_le_of_mem {f : Field} {fs : List Field} (h : f ∈ fs) :
    heightField f ≤ heightFields fs := by
  induction fs with
  | nil => simp at h
  | cons g gs ih =>
    simp only [heightFields]
    rcases List.mem_cons.1 h with rfl | h
    · omega
    · have := ih h; omega

theorem height_le_of_mem_field {c : Node} {f : Field} (h : c ∈ f.children) :
    c.height ≤ heightField f := by
  cases f with
  | node n => simp only [Field.children, List.mem_singleton] at h; simp [heightField, h]
  | list items =>
    simp only [Field.children, List.mem_filterMap] at h
    obtain ⟨g, hg, hc⟩ := h
    cases g <;> simp only [Field.node?, Option.some.injEq, reduceCtorEq] at hc
    subst hc
    have := heightField_le_of_mem hg
    simpa [heightField] using this
  | value v => simp [Field.children] at h
  | float t => simp [Field.children] at h

theorem height_lt_of_mem_children {c n : Node} (h : c ∈ n.children) : c.height < n.height := by
  obtain ⟨k, l, fs⟩ := n
  simp only [children, fields_mk, List.mem_flatMap] at h
  obtain ⟨f, hf, hc⟩ := h
  have h1 := height_le_of_mem_field hc
  have h2 := heightField_le_of_mem hf
  simp only [height]
  omega

/-- The nodes below `n`, parents before their children, down to the given number of levels. -/
def under : Nat → Node → List Node
  | 0, _ => []
  | levels + 1, n => n.children.flatMap fun c => c :: under levels c

/-- The nodes below `n`, parents before their children. -/
def descendants (n : Node) : List Node := under n.height n

/-- Which field says how a name is used. -/
def roleIndex? : Kind → Option Nat
  | .name | .tuple => some 1
  | .getitem | .getattr => some 2
  | _ => none

mutual

/-- The tree with every use of a name marked as the given role. -/
def withRole (role : String) : Node → Node
  | .mk k l fs =>
    let fs := withRoleFields role fs
    .mk k l (match roleIndex? k with
      | some i => fs.set i (.text role)
      | none => fs)

def withRoleField (role : String) : Field → Field
  | .node n => .node (n.withRole role)
  | .list items => .list (withRoleFields role items)
  | .value v => .value v
  | .float t => .float t

def withRoleFields (role : String) : List Field → List Field
  | [] => []
  | f :: fs => withRoleField role f :: withRoleFields role fs

end

end Node

end TemplateLint
