import TableQuery.Binary64.Written
import TableQuery.Json.Basic
import TableQuery.Text.Quoted

/-! Data documents as text, without blanks or with one value a line. Numbers that are not finite are
written as null. -/

namespace TableQuery.Json

open Text (digitChars)

def escapedChar (c : Char) : List Char :=
  if c = '"' then ['\\', '"']
  else if c = '\\' then ['\\', '\\']
  else if c = '\x08' then ['\\', 'b']
  else if c = '\x0c' then ['\\', 'f']
  else if c = '\n' then ['\\', 'n']
  else if c = '\r' then ['\\', 'r']
  else if c = '\t' then ['\\', 't']
  else if c < ' ' then
    ['\\', 'u', '0', '0'] ++ (Nat.toDigits 16 (c.toNat / 16)) ++ (Nat.toDigits 16 (c.toNat % 16))
  else [c]

def textLiteral (text : String) : String :=
  String.ofList ('"' :: text.toList.flatMap escapedChar ++ ['"'])

def doubleLiteral (x : Binary64) : String :=
  match x.data? with
  | some digits => String.ofList digits
  | none => "null"

def integerLiteral (n : Int) : String :=
  String.ofList (if n < 0 then '-' :: digitChars n.natAbs else digitChars n.natAbs)

def scalarText : Json → String
  | .boolean true => "true"
  | .boolean false => "false"
  | .integer n => integerLiteral n
  | .double x => doubleLiteral x
  | .text s => textLiteral s
  | _ => "null"

mutual

def compact : Json → String
  | .array items => "[" ++ String.intercalate "," (compactItems items) ++ "]"
  | .object members => "\x7b" ++ String.intercalate "," (compactMembers members) ++ "\x7d"
  | scalar => scalarText scalar

def compactItems : List Json → List String
  | [] => []
  | item :: rest => compact item :: compactItems rest

def compactMembers : List (String × Json) → List String
  | [] => []
  | (key, value) :: rest => (textLiteral key ++ ":" ++ compact value) :: compactMembers rest

end

def lineBreak (level : Nat) : String := String.ofList ('\n' :: List.replicate (2 * level) ' ')

def spread (level : Nat) (opening : String) (parts : List String) (closing : String) : String :=
  if parts.isEmpty then opening ++ closing
  else opening ++ lineBreak (level + 1) ++ String.intercalate ("," ++ lineBreak (level + 1)) parts ++
    lineBreak level ++ closing

mutual

def prettyAt (level : Nat) : Json → String
  | .array items => spread level "[" (prettyItems (level + 1) items) "]"
  | .object members => spread level "\x7b" (prettyMembers (level + 1) members) "\x7d"
  | scalar => scalarText scalar

def prettyItems (level : Nat) : List Json → List String
  | [] => []
  | item :: rest => prettyAt level item :: prettyItems level rest

def prettyMembers (level : Nat) : List (String × Json) → List String
  | [] => []
  | (key, value) :: rest =>
    (textLiteral key ++ ": " ++ prettyAt level value) :: prettyMembers level rest

end

def pretty (document : Json) : String := prettyAt 0 document

end TableQuery.Json
