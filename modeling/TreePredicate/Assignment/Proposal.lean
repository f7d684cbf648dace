/-!
# Proposing a cheapest assignment

The shortest augmenting path method: rows enter one after another, and each time a cheapest path of
exchanges leads from the new row to a free column. Every row and column carries a label, and the
labels of a finished assignment show that it is cheapest (`Assignment.Certified`); nothing here has
to be trusted for that.

Rows and columns are counted from one; column zero stands for the row that enters.
-/

set_option autoImplicit false

namespace TreePredicate.Assignment

/-- Labels of rows and columns, and the row that each column belongs to, zero if it is free. -/
structure Labels where
  row : Array Int
  column : Array Int
  owner : Array Nat

/-- The columns reached while a row looks for its place: whether their paths are settled, what their
cheapest paths still cost, and which column comes before them. -/
structure Paths where
  settled : Array Bool
  slack : Array (Option Int)
  via : Array Nat

/-- The cheapest column found so far that is not settled. -/
abbrev Nearest := Option (Int × Nat)

/-- The nearer of the best column so far and another one. -/
def nearer (best : Nearest) (slack : Option Int) (column : Nat) : Nearest :=
  match best, slack with
  | none, some cost => some (cost, column)
  | some (least, _), some cost => if cost < least then some (cost, column) else best
  | _, none => best

/-- Looks from column `from₀` at one other column. -/
def look (cost : Nat → Nat → Int) (labels : Labels) (from₀ : Nat) (state : Paths × Nearest)
    (column : Nat) : Paths × Nearest :=
  let (paths, best) := state
  if paths.settled.getD column false then state
  else
    let row := labels.owner.getD from₀ 0
    let reduced := cost row column - labels.row.getD row 0 - labels.column.getD column 0
    let closer : Bool := match paths.slack.getD column none with
      | some slack => reduced < slack
      | none => true
    let paths := if closer then
        { paths with
          slack := paths.slack.setIfInBounds column (some reduced)
          via := paths.via.setIfInBounds column from₀ }
      else paths
    (paths, nearer best (paths.slack.getD column none) column)

/-- Moves labels and slacks by the cost of the next step. -/
def shift (columns : Nat) (delta : Int) (labels : Labels) (paths : Paths) : Labels × Paths :=
  (List.range (columns + 1)).foldl
    (fun (labels, paths) column =>
      if paths.settled.getD column false then
        let row := labels.owner.getD column 0
        ({ labels with
            row := labels.row.setIfInBounds row (labels.row.getD row 0 + delta)
            column := labels.column.setIfInBounds column (labels.column.getD column 0 - delta) },
          paths)
      else
        (labels,
          { paths with
            slack := paths.slack.setIfInBounds column
              ((paths.slack.getD column none).map (· - delta)) }))
    (labels, paths)

/-- Settles columns until a free one is reached; at most `steps` of them. -/
def settle (cost : Nat → Nat → Int) (columns : Nat) : Nat → Labels → Paths → Nat →
    Labels × Paths × Nat
  | 0, labels, paths, column => (labels, paths, column)
  | steps + 1, labels, paths, column =>
    let paths := { paths with settled := paths.settled.setIfInBounds column true }
    let (paths, best) :=
      ((List.range columns).map (· + 1)).foldl (look cost labels column) (paths, none)
    match best with
    | none => (labels, paths, column)
    | some (delta, nearest) =>
      let (labels, paths) := shift columns delta labels paths
      if labels.owner.getD nearest 0 = 0 then (labels, paths, nearest)
      else settle cost columns steps labels paths nearest

/-- Moves the owners along the path that ends in a column; at most `steps` of them. -/
def exchange (via : Array Nat) : Nat → Array Nat → Nat → Array Nat
  | 0, owner, _ => owner
  | steps + 1, owner, column =>
    if column = 0 then owner
    else
      let before := via.getD column 0
      exchange via steps (owner.setIfInBounds column (owner.getD before 0)) before

/-- Lets a row enter. -/
def enter (cost : Nat → Nat → Int) (columns : Nat) (labels : Labels) (row : Nat) : Labels :=
  let labels := { labels with owner := labels.owner.setIfInBounds 0 row }
  let paths : Paths :=
    ⟨Array.replicate (columns + 1) false, Array.replicate (columns + 1) none,
      Array.replicate (columns + 1) 0⟩
  let (labels, paths, column) := settle cost columns (columns + 1) labels paths 0
  { labels with owner := exchange paths.via (columns + 1) labels.owner column }

/-- Labels of a cheapest assignment of all rows, of which there are no more than columns. -/
def propose (rows columns : Nat) (cost : Nat → Nat → Int) : Labels :=
  ((List.range rows).map (· + 1)).foldl (enter cost columns)
    ⟨Array.replicate (rows + 1) 0, Array.replicate (columns + 1) 0,
      Array.replicate (columns + 1) 0⟩

end TreePredicate.Assignment
