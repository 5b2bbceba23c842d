import TableQuery.Delimited.Options

/-! Rows of cell texts written as delimited text. Every cell stands in quotes. A run of quotes in a
cell is written as one quote, and each quote that is left is doubled. -/

namespace TableQuery.Delimited

def collapseQuotes : List Char → List Char
  | [] => []
  | [c] => [c]
  | a :: b :: rest =>
    if a = '"' ∧ b = '"' then collapseQuotes (b :: rest) else a :: collapseQuotes (b :: rest)

def doubleQuotes : List Char → List Char
  | [] => []
  | c :: rest => if c = '"' then '"' :: '"' :: doubleQuotes rest else c :: doubleQuotes rest

def isLineBreak (c : Char) : Bool := c == '\r' || c == '\n'

def stripLineBreaks (text : List Char) : List Char := text.filter fun c => !isLineBreak c

def bodyOf (options : Options) (cell : List Char) : List Char :=
  let doubled := doubleQuotes (collapseQuotes cell)
  if options.stripNewlines then stripLineBreaks doubled else doubled

def cellText (options : Options) (cell : List Char) : List Char :=
  '"' :: bodyOf options cell ++ ['"']

def rowText (options : Options) (row : List (List Char)) : List Char :=
  options.separatorMark.chars.intercalate (row.map (cellText options))

def textOf (options : Options) (rows : List (List (List Char))) : List Char :=
  options.newlineMark.chars.intercalate (rows.map (rowText options))

def escapeCell (options : Options) (cell : String) : String :=
  String.ofList (cellText options cell.toList)

def write (options : Options) (rows : List (List String)) : String :=
  String.ofList (textOf options (rows.map fun row => row.map String.toList))

end TableQuery.Delimited
