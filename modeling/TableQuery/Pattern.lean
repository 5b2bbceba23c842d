import TableQuery.Text.Folding

/-! Wildcard patterns: a percent sign stands for any run of characters, an underscore for one
character, and every other character for itself. Matching keeps what can be left of the text after
each pattern character, the longest remainder first, so a run costs no search. -/

namespace TableQuery.Pattern

def suffixes : List Char → List (List Char)
  | [] => [[]]
  | c :: rest => (c :: rest) :: suffixes rest

def afterOne (test : Char → Bool) : List Char → Option (List Char)
  | [] => none
  | c :: rest => if test c then some rest else none

def advance (same : Char → Char → Bool) (remainders : List (List Char)) (c : Char) :
    List (List Char) :=
  if c = '%' then
    match remainders with
    | [] => []
    | longest :: _ => suffixes longest
  else if c = '_' then remainders.filterMap (afterOne fun _ => true)
  else remainders.filterMap (afterOne (same c))

def remaindersOf (same : Char → Char → Bool) (pattern text : List Char) : List (List Char) :=
  pattern.foldl (advance same) [text]

def sameChar (caseSensitive : Bool) (a b : Char) : Bool :=
  if caseSensitive then a == b else Text.sameFolded a b

def covers (caseSensitive : Bool) (pattern text : List Char) : Bool :=
  (remaindersOf (sameChar caseSensitive) pattern text).any List.isEmpty

def metacharacters : List Char :=
  ['\\', '.', '+', '*', '?', '(', ')', '|', '[', ']', '{', '}', '^', '$', '#', '&', '-', '~']

def regexPart (c : Char) : List Char :=
  if c = '%' then ['.', '*']
  else if c = '_' then ['.']
  else if metacharacters.contains c then ['\\', c]
  else [c]

/-- The regular expression of a pattern, anchored at both ends, where a dot takes line breaks too. -/
def regexChars (pattern : List Char) : List Char :=
  ['^', '(', '?', 's', ':'] ++ pattern.flatMap regexPart ++ [')', '$']

def regexText (pattern : String) : String := String.ofList (regexChars pattern.toList)

end TableQuery.Pattern
