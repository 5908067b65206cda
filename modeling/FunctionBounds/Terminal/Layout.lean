import FunctionBounds.Display.Console
import FunctionBounds.Terminal.Markup

/-!
# Plain display

* `Console.Item.lines`: what is shown, as lines of text without colors and frames.
-/

namespace FunctionBounds.Console

/-- The width of a line across the console. -/
def ruleWidth : Nat := 80

/-- A title in the middle of a line across the console. -/
def ruleLine (title : String) : String :=
  let left := (ruleWidth - title.length) / 2
  let dashes := fun n => String.ofList (List.replicate n '─')
  dashes left ++ title ++ dashes (ruleWidth - title.length - left)

/-- A text and blanks after it up to a width. -/
def padded (width : Nat) (s : String) : String :=
  s ++ String.ofList (List.replicate (width - s.length) ' ')

/-- Rows of cells, one row a line, with two blanks between columns of even width. -/
def tableLines (rows : List (List String)) : List String :=
  let width := fun i => (rows.map fun cells => (cells.getD i "").length).foldl max 0
  rows.map fun cells =>
    "  ".intercalate (cells.zipIdx.map fun (cell, i) => padded (width i) cell)

/-- What the markup of a cell shows; a cell with a fault is shown as it is. -/
def cellText (cell : String) : String := (Terminal.renderer.plain cell).toOption.getD cell

/-- What is shown, as lines of text. -/
def Item.lines : Item → List String
  | rule title => [ruleLine title]
  | text line => [line]
  | panel title lines => title :: lines.map ("  " ++ ·)
  | table title columns rows =>
    title.toList ++ tableLines (columns :: rows.map fun cells => cells.map cellText)

end FunctionBounds.Console
