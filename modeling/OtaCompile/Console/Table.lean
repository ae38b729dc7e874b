/-!
# Tables

A table of texts in a frame, with one row of headings; each column is as wide as its widest text and
a space on both sides.
-/

namespace OtaCompile.Console

/-- The characters of a horizontal line of the frame. -/
structure Rule where
  left : String
  line : Char
  crossing : String
  right : String

def Rule.top : Rule := ⟨"┌", '─', "┬", "┐"⟩
def Rule.underHeadings : Rule := ⟨"╞", '═', "╪", "╡"⟩
def Rule.between : Rule := ⟨"├", '╌', "┼", "┤"⟩
def Rule.bottom : Rule := ⟨"└", '─', "┴", "┘"⟩

def Rule.render (r : Rule) (widths : List Nat) : String :=
  r.left ++ String.intercalate r.crossing (widths.map fun w => "".pushn r.line (w + 2)) ++ r.right

/-- The width of each column. -/
def widths (rows : List (List String)) : List Nat :=
  rows.foldl (fun ws row => List.zipWith max ws (row.map String.length))
    ((rows.headD []).map fun _ => 0)

def renderRow (widths : List Nat) (row : List String) : String :=
  "│" ++ String.intercalate "┆"
    (List.zipWith (fun w cell => " " ++ cell.pushn ' ' (w - cell.length) ++ " ") widths row) ++ "│"

/-- The lines of a table. -/
def table (headings : List String) (rows : List (List String)) : List String :=
  let ws := widths (headings :: rows)
  [Rule.top.render ws, renderRow ws headings, Rule.underHeadings.render ws] ++
    (rows.map (renderRow ws)).intersperse (Rule.between.render ws) ++ [Rule.bottom.render ws]

end OtaCompile.Console
