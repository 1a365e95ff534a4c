/-!
How alike two texts are: what share of their characters lies in blocks that they have in common,
found longest block first.
-/

namespace TemplateLint.Text

/-- The length of the text with which both texts start. -/
def commonStart : List Char → List Char → Nat
  | a :: as, b :: bs => if a = b then commonStart as bs + 1 else 0
  | _, _ => 0

/-- A block of characters that two texts have in common, and where it starts in each of them. -/
structure CommonBlock where
  left : Nat
  right : Nat
  size : Nat

/-- The longest common block; of several, the one that starts first in `as`, then in `bs`. -/
def longestCommonBlock (as bs : List Char) : CommonBlock :=
  let starts := (List.range as.length).flatMap fun i => (List.range bs.length).map fun j => (i, j)
  starts.foldl (fun best (i, j) =>
    let size := commonStart (as.drop i) (bs.drop j)
    if best.size < size then ⟨i, j, size⟩ else best) ⟨0, 0, 0⟩

/-- How many characters lie in common blocks: the longest one, and those on either side of it. At
most `levels` blocks lie inside one another's sides. -/
def commonCount : Nat → List Char → List Char → Nat
  | 0, _, _ => 0
  | levels + 1, as, bs =>
    let block := longestCommonBlock as bs
    if block.size = 0 then 0
    else
      commonCount levels (as.take block.left) (bs.take block.right) + block.size +
        commonCount levels (as.drop (block.left + block.size)) (bs.drop (block.right + block.size))

/-- The share of characters in common blocks, as a fraction. -/
def likeness (a b : String) : Nat × Nat :=
  (2 * commonCount a.length a.toList b.toList, a.length + b.length)

/-- The names that are like a text, three at most, the likest first: at least six characters in ten
lie in common blocks. -/
def likest (names : List String) (s : String) : List String :=
  let rated := (names.map fun n => (n, likeness n s)).filter fun (_, common, all) =>
    6 * all ≤ 10 * common && 0 < common
  let before (a b : String × Nat × Nat) : Bool :=
    let x := a.2.1 * b.2.2
    let y := b.2.1 * a.2.2
    y < x || x == y && b.1 ≤ a.1
  ((rated.mergeSort before).take 3).map (·.1)

end TemplateLint.Text
