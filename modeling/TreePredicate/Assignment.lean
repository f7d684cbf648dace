import TreePredicate.Assignment.Proposal
import TreePredicate.Number.Double

/-!
# Cheapest assignments

An assignment pairs rows of a grid with columns, no row and no column twice, and as many as there is
room for. It costs the sum of its cells.

* `Grid` : a grid of cells; `Grid.table` computes every cell once;
* `Certified` : labels of rows and columns that no cell undercuts and that the chosen cells reach,
  so that no other assignment is cheaper;
* `cheapest` : a cheapest assignment of all rows of a wide grid, by a certified proposal or else by
  trying all;
* `solve` : the same for grids of any shape, by ascending row;
* `assign` : for costs that are doubles, with infinite ones forbidden. A forbidden cell counts as a
  guard of twice the greatest finite cost and one more, and pairs on such cells are dropped.
-/

set_option autoImplicit false

namespace TreePredicate

/-- A grid of cells. -/
abbrev Grid (rows columns : Nat) (α : Type) := Fin rows → Fin columns → α

namespace Grid

variable {rows columns : Nat} {α : Type}

/-- The cells row by row, each computed once. -/
def table (grid : Grid rows columns α) : Array (Array α) :=
  Array.ofFn fun i => Array.ofFn fun j => grid i j

/-- The grid with rows and columns exchanged. -/
def transpose (grid : Grid rows columns α) : Grid columns rows α := fun j i => grid i j

/-- All places of a grid, row by row. -/
def places (rows columns : Nat) : List (Fin rows × Fin columns) :=
  (List.finRange rows).flatMap fun i => (List.finRange columns).map fun j => (i, j)

theorem mem_places {rows columns : Nat} (i : Fin rows) (j : Fin columns) :
    (i, j) ∈ places rows columns := by
  simp [places, List.mem_finRange]

end Grid

/-- Pairs of rows and columns. -/
abbrev Assignment (rows columns : Nat) := List (Fin rows × Fin columns)

namespace Assignment

variable {rows columns : Nat}

/-- The sum of the cells of an assignment. -/
def total (cost : Grid rows columns Int) (pairs : Assignment rows columns) : Int :=
  pairs.foldr (fun (i, j) sum => cost i j + sum) 0

/-! ## Certificates -/

/-- All rows are paired, with distinct columns, and labels of rows and columns show that this is
cheapest: no cell is below the sum of its labels, the chosen ones are equal to it, and the labels of
columns are zero or negative, and zero where no row is paired with the column. -/
structure Certified (cost : Grid rows columns Int) (pairs : Assignment rows columns)
    (row : Fin rows → Int) (column : Fin columns → Int) : Prop where
  rows_eq : pairs.map Prod.fst = List.finRange rows
  columns_nodup : (pairs.map Prod.snd).Nodup
  below : ∀ i j, row i + column j ≤ cost i j
  tight : ∀ pair ∈ pairs, row pair.1 + column pair.2 = cost pair.1 pair.2
  nonpos : ∀ j, column j ≤ 0
  free : ∀ j, j ∉ pairs.map Prod.snd → column j = 0

/-- The conditions of a certificate, gone through one by one. -/
def isCertified (cost : Grid rows columns Int) (pairs : Assignment rows columns)
    (row : Fin rows → Int) (column : Fin columns → Int) : Bool :=
  decide (pairs.map Prod.fst = List.finRange rows) && decide (pairs.map Prod.snd).Nodup &&
    (Grid.places rows columns).all (fun (i, j) => decide (row i + column j ≤ cost i j)) &&
    pairs.all (fun (i, j) => decide (row i + column j = cost i j)) &&
    (List.finRange columns).all fun j =>
      decide (column j ≤ 0) && (decide (j ∈ pairs.map Prod.snd) || decide (column j = 0))

theorem isCertified_iff {cost : Grid rows columns Int} {pairs : Assignment rows columns}
    {row : Fin rows → Int} {column : Fin columns → Int} :
    isCertified cost pairs row column = true ↔ Certified cost pairs row column := by
  simp only [isCertified, Bool.and_eq_true, Bool.or_eq_true, decide_eq_true_eq, List.all_eq_true]
  constructor
  · rintro ⟨⟨⟨⟨rows_eq, columns_nodup⟩, below⟩, tight⟩, labels⟩
    exact ⟨rows_eq, columns_nodup, fun i j => below _ (Grid.mem_places i j), tight,
      fun j => (labels j (List.mem_finRange j)).1,
      fun j free => (labels j (List.mem_finRange j)).2.resolve_left free⟩
  · rintro ⟨rows_eq, columns_nodup, below, tight, nonpos, free⟩
    exact ⟨⟨⟨⟨rows_eq, columns_nodup⟩, fun place _ => below place.1 place.2⟩, tight⟩,
      fun j _ => ⟨nonpos j, Decidable.or_iff_not_imp_left.mpr (free j)⟩⟩

/-! ## Solving -/

/-- The cheaper of two candidates, the first one if they cost the same. -/
def cheaper {α : Type} (a b : Option (Int × α)) : Option (Int × α) :=
  match a, b with
  | some (x, _), some (y, _) => if y < x then b else a
  | none, _ => b
  | _, none => a

/-- A cheapest way to pair rows with some of the columns, found by trying all. -/
def search (cost : Grid rows columns Int) :
    List (Fin rows) → List (Fin columns) → Option (Int × Assignment rows columns)
  | [], _ => some (0, [])
  | i :: others, free =>
    (free.map fun j =>
      (search cost others (free.erase j)).map fun (sum, pairs) =>
        (cost i j + sum, (i, j) :: pairs)).foldl cheaper none

/-- The column of a row in a proposal. -/
def columnOf? (labels : Labels) (i : Fin rows) : Option (Fin columns) :=
  (List.finRange columns).find? fun j => labels.owner.getD (j.val + 1) 0 == i.val + 1

/-- A cheapest assignment of all rows, of which there must not be more than columns. -/
def cheapest (cost : Grid rows columns Int) : Assignment rows columns :=
  let table := Grid.table cost
  let labels := propose rows columns fun i j => (table.getD (i - 1) #[]).getD (j - 1) 0
  let pairs := (List.finRange rows).filterMap fun i => (columnOf? labels i).map fun j => (i, j)
  if isCertified cost pairs (fun i => labels.row.getD (i.val + 1) 0)
      (fun j => labels.column.getD (j.val + 1) 0) then
    pairs
  else
    ((search cost (List.finRange rows) (List.finRange columns)).map Prod.snd).getD []

/-- A cheapest assignment that pairs all rows or all columns, by ascending row. -/
def solve (cost : Grid rows columns Int) : Assignment rows columns :=
  if rows ≤ columns then cheapest cost
  else
    let pairs := cheapest cost.transpose
    (List.finRange rows).filterMap fun i =>
      (pairs.find? fun (_, k) => k == i).map fun (j, k) => (k, j)

/-! ## Costs that are doubles -/

/-- Why costs have no assignment. -/
inductive Fault where
  | invalidEntry
  | infeasible
deriving DecidableEq

/-- What is said of costs without an assignment. -/
def Fault.message : Fault → String
  | .invalidEntry => "matrix contains invalid numeric entries"
  | .infeasible => "cost matrix is infeasible"

/-- A cell that must not be chosen. -/
def isForbidden : Double → Bool
  | .infinite _ => true
  | _ => false

/-- A finite cost in units. -/
def units? : Double → Option Int
  | .finite negative m => some (signed negative m.units)
  | _ => none

/-- The greater of two doubles; not-a-number is greater than all. -/
def greater (a b : Double) : Double :=
  match a.point?, b.point? with
  | none, _ => a
  | _, none => b
  | some x, some y => if x.lt y then b else a

/-- The guard for a greatest finite cost. -/
def guard (greatest : Double) : Double := greatest.twice.add (Double.ofInt 1)

/-- A cheapest assignment of costs none of which is forbidden, except that positive infinity may
stand for cells that cannot be chosen. -/
def solveDoubles (cost : Grid rows columns Double) : Except Fault (Assignment rows columns) :=
  let cells := (Grid.places rows columns).map fun (i, j) => cost i j
  if cells.any fun d => d == .nan || d == .infinite true then .error .invalidEntry
  else
    let finite := cells.filterMap units?
    let bound := (finite.map Int.natAbs).foldl max 0
    let beyond : Int := (2 * (rows + columns) * bound + 1 : Nat)
    let pairs := solve fun i j => (units? (cost i j)).getD beyond
    if pairs.any fun (i, j) => isForbidden (cost i j) then .error .infeasible else .ok pairs

/-- A cheapest assignment in which infinite costs are forbidden, by ascending row. -/
def assign (cost : Grid rows columns Double) : Except Fault (Assignment rows columns) :=
  let table := Grid.table cost
  let cost : Grid rows columns Double := fun i j => (table.getD i #[]).getD j .nan
  let allowed := ((Grid.places rows columns).map fun (i, j) => cost i j).filter (!isForbidden ·)
  match allowed with
  | [] => .ok []
  | first :: others => do
    let guard := guard (others.foldl greater first)
    let pairs ← solveDoubles fun i j => if isForbidden (cost i j) then guard else cost i j
    return pairs.filter fun (i, j) => !isForbidden (cost i j)

end Assignment

end TreePredicate
