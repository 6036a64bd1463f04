import MemoryBank.Text.Split
import MemoryBank.Text.Width

set_option autoImplicit false

/-!
Tables drawn with box characters. Every column is as wide as its widest line, with a blank on both
sides; a cell may have several lines.
-/

namespace MemoryBank

structure Table where
  header : List String
  rows : List (List String)

namespace Table

abbrev Cell := List String

def cell (text : String) : Cell := (Text.splitAll '\n' text.toList).map String.ofList

def cellWidth (c : Cell) : Nat := (c.map Text.width).foldl max 0

def widen : List Nat → List Nat → List Nat
  | ms, [] => ms
  | [], ns => ns
  | m :: ms, n :: ns => max m n :: widen ms ns

def widths (rows : List (List Cell)) : List Nat :=
  rows.foldl (fun ws row => widen ws (row.map cellWidth)) []

def padded (width : Nat) (line : String) : String :=
  " " ++ line ++ String.ofList (List.replicate (width - Text.width line) ' ') ++ " "

def rule (left fill joint right : String) (widths : List Nat) : String :=
  left ++ String.intercalate joint
    (widths.map fun w => String.join (List.replicate (w + 2) fill)) ++ right

def rowLine (widths : List Nat) (row : List Cell) (n : Nat) : String :=
  "│" ++ String.intercalate "┆" (List.zipWith (fun w c => padded w (c.getD n "")) widths row)
    ++ "│"

def rowLines (widths : List Nat) (row : List Cell) : List String :=
  (List.range ((row.map List.length).foldl max 0)).map (rowLine widths row)

def lines (t : Table) : List String :=
  let header := t.header.map cell
  let rows := t.rows.map (·.map cell)
  let ws := widths (header :: rows)
  [rule "┌" "─" "┬" "┐" ws] ++ rowLines ws header ++ [rule "╞" "═" "╪" "╡" ws]
    ++ rows.flatMap (rowLines ws) ++ [rule "└" "─" "┴" "┘" ws]

def render (t : Table) : String := String.intercalate "\n" t.lines

end Table

end MemoryBank
