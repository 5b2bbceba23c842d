import TableQuery.Binary64.Reading
import TableQuery.Json.Token
import TableQuery.Text.Digits
import TableQuery.Toml.Basic

/-! The texts, numbers and moments of settings documents. -/

namespace TableQuery.Toml

open Text (natOfDigits)

def isPrintable (c : Char) : Bool := c == '\t' || (' ' ≤ c && c != '\x7f')

def isNewline : List Char → Bool
  | '\n' :: _ => true
  | '\r' :: '\n' :: _ => true
  | _ => false

def cutNewline : List Char → Option (List Char)
  | '\n' :: rest => some rest
  | '\r' :: '\n' :: rest => some rest
  | _ => none

def isSpace (c : Char) : Bool := c == ' ' || c == '\t'

def skipSpaces (text : List Char) : List Char := text.dropWhile isSpace

def codeChar? (digits : List Char) : Option Char := do
  let values ← digits.mapM Json.hexValue?
  let code := values.foldl (fun n d => 16 * n + d) 0
  if code < 0xD800 ∨ 0xE000 ≤ code ∧ code < 0x110000 then some (Char.ofNat code) else none

def escaped? : List Char → Option (Char × List Char)
  | 'b' :: rest => some ('\x08', rest)
  | 't' :: rest => some ('\t', rest)
  | 'n' :: rest => some ('\n', rest)
  | 'f' :: rest => some ('\x0c', rest)
  | 'r' :: rest => some ('\r', rest)
  | '"' :: rest => some ('"', rest)
  | '\\' :: rest => some ('\\', rest)
  | 'u' :: rest =>
    if rest.length < 4 then none else (codeChar? (rest.take 4)).map fun c => (c, rest.drop 4)
  | 'U' :: rest =>
    if rest.length < 8 then none else (codeChar? (rest.take 8)).map fun c => (c, rest.drop 8)
  | _ => none

/-- The body of a text in double quotes after the opening one. The measure bounds its length. -/
def basicBody : Nat → List Char → Option (List Char × List Char)
  | 0, _ => none
  | steps + 1, input =>
    match input with
    | '"' :: rest => some ([], rest)
    | '\\' :: rest =>
      match escaped? rest with
      | some (c, rest) => (basicBody steps rest).map fun (body, after) => (c :: body, after)
      | none => none
    | c :: rest =>
      if isPrintable c then (basicBody steps rest).map fun (body, after) => (c :: body, after)
      else none
    | [] => none

def literalBody : List Char → Option (List Char × List Char)
  | [] => none
  | c :: rest =>
    if c = '\'' then some ([], rest)
    else if isPrintable c then (literalBody rest).map fun (body, after) => (c :: body, after)
    else none

/-- A run of up to five quotes in a text between triple quotes: up to two before the three that
close it belong to the text, and fewer than three close nothing. -/
def closingQuotes (quote : Char) (text : List Char) : Option (List Char × Option (List Char)) :=
  let run := (text.takeWhile (· == quote)).length
  if run < 3 then some (List.replicate run quote, none)
  else if run ≤ 5 then some (List.replicate (run - 3) quote, some (text.drop run))
  else none

def skipBreaks : List Char → List Char
  | '\n' :: rest => skipBreaks rest
  | '\r' :: '\n' :: rest => skipBreaks rest
  | c :: rest => if isSpace c then skipBreaks rest else c :: rest
  | [] => []

def continued? (text : List Char) : Option (List Char) :=
  if isNewline (skipSpaces text) then some (skipBreaks text) else none

/-- The body of a text between triple quotes. Line ends are taken as line feeds. -/
def longBody (quote : Char) (escapes : Bool) : Nat → List Char → Option (List Char × List Char)
  | 0, _ => none
  | steps + 1, input =>
    match input with
    | [] => none
    | c :: rest =>
      if c = quote then
        match closingQuotes quote input with
        | none => none
        | some (quotes, some after) => some (quotes, after)
        | some (quotes, none) =>
          (longBody quote escapes steps (input.drop quotes.length)).map fun (body, after) =>
            (quotes ++ body, after)
      else if escapes ∧ c = '\\' then
        match continued? rest with
        | some rest => longBody quote escapes steps rest
        | none =>
          match escaped? rest with
          | some (c, rest) =>
            (longBody quote escapes steps rest).map fun (body, after) => (c :: body, after)
          | none => none
      else
        match cutNewline input with
        | some rest =>
          (longBody quote escapes steps rest).map fun (body, after) => ('\n' :: body, after)
        | none =>
          if isPrintable c then
            (longBody quote escapes steps rest).map fun (body, after) => (c :: body, after)
          else none

/-- A text between triple quotes; a line end directly after the opening ones does not count. -/
def longText (quote : Char) (escapes : Bool) (text : List Char) :
    Option (List Char × List Char) :=
  longBody quote escapes text.length ((cutNewline text).getD text)

def text? : List Char → Option (List Char × List Char)
  | '"' :: '"' :: '"' :: rest => longText '"' true rest
  | '\'' :: '\'' :: '\'' :: rest => longText '\'' false rest
  | '"' :: rest => basicBody rest.length rest
  | '\'' :: rest => literalBody rest
  | _ => none

def plainDigits? (isDigit : Char → Bool) : List Char → Option (List Char)
  | [] => none
  | [c] => if isDigit c then some [c] else none
  | c :: '_' :: rest =>
    if isDigit c then (plainDigits? isDigit rest).map (c :: ·) else none
  | c :: rest => if isDigit c then (plainDigits? isDigit rest).map (c :: ·) else none

def wholeDigits? (text : List Char) : Option (List Char) :=
  match plainDigits? Char.isDigit text with
  | some ('0' :: _ :: _) => none
  | digits => digits

def isHex (c : Char) : Bool := (Json.hexValue? c).isSome

def valueIn (base : Nat) (digits : List Char) : Nat :=
  digits.foldl (fun n c => base * n + (Json.hexValue? c).getD 0) 0

def fits (n : Int) : Bool := (Text.wordOf? n).isSome

def isInteger (text : List Char) : Bool :=
  match text with
  | '0' :: 'x' :: rest => ((plainDigits? isHex rest).map (valueIn 16)).any (fits ·)
  | '0' :: 'o' :: rest =>
    ((plainDigits? (fun c => '0' ≤ c && c ≤ '7') rest).map (valueIn 8)).any (fits ·)
  | '0' :: 'b' :: rest =>
    ((plainDigits? (fun c => c == '0' || c == '1') rest).map (valueIn 2)).any (fits ·)
  | _ =>
    let (negative, body) := Text.cutSign text
    match wholeDigits? body with
    | some digits => fits (if negative then -(natOfDigits digits : Int) else natOfDigits digits)
    | none => false

def isExponent (text : List Char) : Bool :=
  (plainDigits? Char.isDigit (Text.cutSign text).2).isSome

def isExponentMark (c : Char) : Bool := c == 'e' || c == 'E'

def isFraction (text : List Char) : Bool :=
  let digits := text.takeWhile (!isExponentMark ·)
  (plainDigits? Char.isDigit digits).isSome &&
    match text.dropWhile (!isExponentMark ·) with
    | [] => true
    | _ :: exponent => isExponent exponent

def isFloat (text : List Char) : Bool :=
  let body := (Text.cutSign text).2
  if body = ['i', 'n', 'f'] ∨ body = ['n', 'a', 'n'] then true
  else
    let whole := body.takeWhile fun c => c.isDigit || c == '_'
    let shaped := (wholeDigits? whole).isSome &&
      match body.drop whole.length with
      | '.' :: fraction => isFraction fraction
      | c :: exponent => isExponentMark c && isExponent exponent
      | [] => false
    shaped && (Binary64.read? (text.filter (· != '_'))).any (· ≠ .infinite false)

def twoDigits? : List Char → Option (Nat × List Char)
  | a :: b :: rest =>
    if a.isDigit ∧ b.isDigit then some (natOfDigits [a, b], rest) else none
  | _ => none

def isLeap (year : Nat) : Bool := year % 4 == 0 && (year % 100 != 0 || year % 400 == 0)

def daysIn (year month : Nat) : Nat :=
  if month = 2 then if isLeap year then 29 else 28
  else if month = 4 ∨ month = 6 ∨ month = 9 ∨ month = 11 then 30 else 31

def date? (text : List Char) : Option (List Char) := do
  let (century, rest) ← twoDigits? text
  let (years, rest) ← twoDigits? rest
  let '-' :: rest := rest | none
  let (month, rest) ← twoDigits? rest
  let '-' :: rest := rest | none
  let (day, rest) ← twoDigits? rest
  if 1 ≤ month ∧ month ≤ 12 ∧ 1 ≤ day ∧ day ≤ daysIn (century * 100 + years) month then some rest
  else none

def time? (text : List Char) : Option (List Char) := do
  let (hour, rest) ← twoDigits? text
  let ':' :: rest := rest | none
  let (minute, rest) ← twoDigits? rest
  let ':' :: rest := rest | none
  let (second, rest) ← twoDigits? rest
  if hour ≤ 23 ∧ minute ≤ 59 ∧ second ≤ 60 then
    match rest with
    | '.' :: c :: rest => if c.isDigit then some (rest.dropWhile Char.isDigit) else none
    | rest => some rest
  else none

def isOffset : List Char → Bool
  | [] => true
  | ['Z'] => true
  | ['z'] => true
  | sign :: rest =>
    (sign == '+' || sign == '-') &&
      match twoDigits? rest with
      | some (hours, ':' :: rest) =>
        match twoDigits? rest with
        | some (minutes, []) => hours ≤ 23 && minutes ≤ 59
        | _ => false
      | _ => false

def isMoment (text : List Char) : Bool :=
  match date? text with
  | some [] => true
  | some (mark :: rest) =>
    (mark == 'T' || mark == 't' || mark == ' ') && (time? rest).any isOffset
  | none => (time? text).any List.isEmpty

def isScalarChar (c : Char) : Bool :=
  c.isAlphanum || c == '_' || c == '+' || c == '-' || c == '.' || c == ':'

/-- The characters of a number, a moment or a word. One blank may stand between a date and a
time. -/
def scalarChars (text : List Char) : List Char × List Char :=
  let first := text.takeWhile isScalarChar
  match date? first, text.dropWhile isScalarChar with
  | some [], ' ' :: c :: rest =>
    if c.isDigit then
      (first ++ ' ' :: (c :: rest).takeWhile isScalarChar, (c :: rest).dropWhile isScalarChar)
    else (first, ' ' :: c :: rest)
  | _, rest => (first, rest)

def scalar? (text : List Char) : Option (Toml × List Char) :=
  let (written, rest) := scalarChars text
  if written = ['t', 'r', 'u', 'e'] then some (.boolean true, rest)
  else if written = ['f', 'a', 'l', 's', 'e'] then some (.boolean false, rest)
  else if isMoment written then some (.moment (.ofList written), rest)
  else if isInteger written || isFloat written then some (.number (.ofList written), rest)
  else none

end TableQuery.Toml
