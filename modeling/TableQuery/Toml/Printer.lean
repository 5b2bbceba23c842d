/-! Texts of settings documents as they are written: in the plainest quotes that need no escapes,
and with escapes where no quotes do without. A text with a line break stands between triple quotes
and starts on a line of its own. -/

namespace TableQuery.Toml

def longestRun (c : Char) (text : List Char) : Nat :=
  (text.foldl
    (fun (longest, run) x => if x = c then (max longest (run + 1), run + 1) else (longest, 0))
    (0, 0)).1

def isControl (c : Char) : Bool := (c < ' ' && c != '\t' && c != '\n') || c == '\x7f'

def fourDigits (n : Nat) : List Char :=
  let digits := (Nat.toDigits 16 n).map Char.toUpper
  List.replicate (4 - digits.length) '0' ++ digits

def escapedChar (long : Bool) (c : Char) : List Char :=
  if c = '\x08' then ['\\', 'b']
  else if c = '\t' then ['\\', 't']
  else if c = '\n' then if long then ['\n'] else ['\\', 'n']
  else if c = '\x0c' then ['\\', 'f']
  else if c = '\r' then ['\\', 'r']
  else if c = '\\' then ['\\', '\\']
  else if c < ' ' ∨ c = '\x7f' then '\\' :: 'u' :: fourDigits c.toNat
  else [c]

/-- Between double quotes. Up to `allowed` quotes in a row stand as they are. -/
def escapedFrom (long : Bool) (allowed : Nat) : Nat → List Char → List Char
  | _, [] => []
  | run, c :: rest =>
    if c = '"' then
      if run < allowed then '"' :: escapedFrom long allowed (run + 1) rest
      else '\\' :: '"' :: escapedFrom long allowed 0 rest
    else escapedChar long c ++ escapedFrom long allowed 0 rest

def basic (text : List Char) : List Char := '"' :: escapedFrom false 0 0 text ++ ['"']

def literal (text : List Char) : List Char := '\'' :: text ++ ['\'']

def long (quote : Char) (text body : List Char) : List Char :=
  let quotes := List.replicate 3 quote
  quotes ++ (if text.contains '\n' then ['\n'] else []) ++ body ++ quotes

def longBasic (text : List Char) : List Char := long '"' text (escapedFrom true 2 0 text)

def longLiteral (text : List Char) : List Char := long '\'' text text

def written (text : List Char) : List Char :=
  let controls := text.any isControl
  let escapes := controls || text.contains '\\'
  let breaks := text.contains '\n'
  if !escapes && !text.contains '"' && !breaks then basic text
  else if !controls && !text.contains '\'' && !breaks then literal text
  else if !escapes && longestRun '"' text ≤ 2 then longBasic text
  else if !controls && longestRun '\'' text ≤ 2 then longLiteral text
  else if breaks then longBasic text
  else basic text

end TableQuery.Toml
