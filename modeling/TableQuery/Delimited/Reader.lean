import TableQuery.Delimited.Options

/-! Delimited text read into rows of cell texts. Inside quotes everything belongs to the cell and a
quote is written twice. Outside, the separator is tried before the newline, and a quote opens a
quoted part only as the first character of a cell. -/

namespace TableQuery.Delimited

inductive Mode
  | fresh
  | quoted
  /-- After the first character or after the closing quote. -/
  | bare
deriving DecidableEq

/-- Reads on with the cell and the row read so far, both with their last part first. A text that
ends in the middle of a row still ends the row. -/
def scan (separator newline : Mark) :
    Mode → List Char → List (List Char) → List Char → List (List (List Char))
  | mode, cell, row, [] =>
    if mode = .fresh ∧ row.isEmpty then [] else [(cell.reverse :: row).reverse]
  | .quoted, cell, row, c :: rest =>
    if c = '"' then
      if rest.head? = some '"' then scan separator newline .quoted ('"' :: cell) row rest.tail
      else scan separator newline .bare cell row rest
    else scan separator newline .quoted (c :: cell) row rest
  | mode, cell, row, c :: rest =>
    match _cell : separator.cut? (c :: rest) with
    | some after => scan separator newline .fresh [] (cell.reverse :: row) after
    | none =>
      match _row : newline.cut? (c :: rest) with
      | some after => (cell.reverse :: row).reverse :: scan separator newline .fresh [] [] after
      | none =>
        if c = '"' ∧ mode = .fresh then scan separator newline .quoted cell row rest
        else scan separator newline .bare (c :: cell) row rest
termination_by _ _ _ text => text.length
decreasing_by
  · simp only [List.length_tail, List.length_cons]; omega
  · simp
  · simp
  · exact Mark.cut?_shorter _cell
  · exact Mark.cut?_shorter _row
  · simp
  · simp

def rowsOf (options : Options) (text : List Char) : List (List (List Char)) :=
  scan options.separatorMark options.newlineMark .fresh [] [] text

def read (options : Options) (text : String) : List (List String) :=
  (rowsOf options text.toList).map fun row => row.map String.ofList

end TableQuery.Delimited
