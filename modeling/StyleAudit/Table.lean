/-!
Tables, as they are handed to a console: a title, columns with how they are drawn, and rows of texts with
style tags.
-/

namespace StyleAudit

inductive Justify where
  | left
  | right
  deriving Repr, DecidableEq, Inhabited

inductive Overflow where
  | ellipsis
  | fold
  deriving Repr, DecidableEq, Inhabited

structure Column where
  header : String
  style : String := ""
  justify : Justify := .left
  /-- Whether cells stay on one line. -/
  unbroken : Bool := false
  overflow : Overflow := .ellipsis
  deriving Repr, DecidableEq, Inhabited

structure Table where
  title : String
  columns : List Column
  rows : List (List String)
  deriving Repr, DecidableEq, Inhabited

namespace Table

def cellsOf (t : Table) (index : Nat) (column : Column) : List String :=
  column.header :: t.rows.map fun row => row[index]?.getD ""

def pad (width : Nat) (justify : Justify) (cell : String) : String :=
  let blanks := String.ofList (List.replicate (width - cell.length) ' ')
  match justify with
  | .left => cell ++ blanks
  | .right => blanks ++ cell

def lineOf (columns : List Column) (widths : List Nat) (row : List String) : String :=
  "  ".intercalate (List.zipWith (fun cell (column, width) => pad width column.justify cell) row
    (columns.zip widths))

/-- The lines of a table on a console without styles: title, header and rows. -/
def lines (t : Table) : List String :=
  let widths := t.columns.zipIdx.map fun (column, index) =>
    ((t.cellsOf index column).map String.length).foldl max 0
  t.title :: (t.columns.map (·.header) :: t.rows).map (lineOf t.columns widths)

end Table

end StyleAudit
