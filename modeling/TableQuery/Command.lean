import TableQuery.Text.Blank
import TableQuery.Text.Digits
import TableQuery.Text.Lowercase

/-! Commands of the shell: a verb in any case and what follows it. -/

namespace TableQuery

inductive FileFormat
  | delimited
  | recordTable
  | records
deriving DecidableEq

inductive Command
  | load (path : String)
  | fields
  | list
  | filter (clause : String)
  | sort (clause : String)
  | select (fields : String) (clause : Option String)
  | update (assignments clause : String)
  | delete (clause : String)
  | insert (text : String)
  | distinct (fields : Option String)
  | commit (on : Bool)
  | give (format : FileFormat) (path : Option String)
  | logs (count : Nat)
  | help
  | quit
deriving DecidableEq

inductive CommandError
  | usage (verb what : String)
  | unknownFormat (format : String)
  | notACount
  | unknownVerb (verb : String)
deriving DecidableEq

def CommandError.message : CommandError → String
  | .usage verb what => "Usage: " ++ verb ++ " " ++ what
  | .unknownFormat format => "Unknown export format '" ++ format ++ "' (csv, json, records)"
  | .notACount => "logs takes a number of entries"
  | .unknownVerb verb => "Unknown command '" ++ verb ++ "'. Type 'help' for a list."

namespace Command

def byteOffset? (piece : List Char) : List Char → Option Nat
  | [] => if piece.isEmpty then some 0 else none
  | c :: rest =>
    if piece.isPrefixOf (c :: rest) then some 0
    else (byteOffset? piece rest).map (· + c.utf8Size)

/-- Cuts a text after a number of bytes, unless that is inside a character or past the end. -/
def cutBytes : Nat → List Char → Option (List Char × List Char)
  | 0, text => some ([], text)
  | _ + 1, [] => none
  | bytes + 1, c :: rest =>
    if c.utf8Size ≤ bytes + 1 then
      (cutBytes (bytes + 1 - c.utf8Size) rest).map fun (before, after) => (c :: before, after)
    else none

def whereWord : List Char := [' ', 'w', 'h', 'e', 'r', 'e', ' ']

/-- What stands before and after the first `where` between blanks, in any case. The place is looked
up in the lower-case text, and where lower-casing has moved it into a character there is none. -/
def splitWhere (text : List Char) : List Char × Option (List Char) :=
  let found := do
    let offset ← byteOffset? whereWord (Text.lower text)
    let (before, _) ← cutBytes offset text
    let (_, after) ← cutBytes (offset + whereWord.length) text
    return (Text.trim before, some (Text.trim after))
  found.getD (Text.trim text, none)

def formatOf (name : List Char) : Except CommandError FileFormat :=
  match Text.lowercase (String.ofList name) with
  | "csv" => .ok .delimited
  | "json" => .ok .recordTable
  | "records" => .ok .records
  | other => .error (.unknownFormat other)

def required (verb what : String) (rest : List Char) : Except CommandError (List Char) :=
  if rest.isEmpty then .error (.usage verb what) else .ok rest

def readSelect (rest : List Char) : Command :=
  let (names, clause) := splitWhere rest
  .select (String.ofList names) (clause.map String.ofList)

def readUpdate (rest : List Char) : Except CommandError Command :=
  match splitWhere rest with
  | (assignments, some clause) =>
    if assignments.isEmpty || clause.isEmpty then
      .error (.usage "update" "<field=\"value\", ...> where <clause>")
    else .ok (.update (String.ofList assignments) (String.ofList clause))
  | (_, none) => .error (.usage "update" "<field=\"value\", ...> where <clause>")

def readCommit (rest : List Char) : Except CommandError Command :=
  match Text.lowercase (String.ofList rest) with
  | "on" | "true" => .ok (.commit true)
  | "off" | "false" => .ok (.commit false)
  | _ => .error (.usage "commit" "on|off")

def readGive (rest : List Char) : Except CommandError Command :=
  match Text.words rest with
  | [] => .ok (.give .delimited none)
  | format :: others =>
    (formatOf format).map fun format => .give format (others.head?.map String.ofList)

def readLogs (rest : List Char) : Except CommandError Command :=
  if rest.isEmpty then .ok (.logs 20)
  else
    match Text.count? rest with
    | some count => .ok (.logs count)
    | none => .error .notACount

def cutVerb (line : List Char) : List Char × List Char :=
  match Text.cutAtBlank line with
  | some (verb, rest) => (verb, Text.trim rest)
  | none => (line, [])

def readVerb (verb : List Char) (rest : List Char) : Except CommandError Command :=
  let typed := String.ofList verb
  match Text.lowercase typed with
  | "load" => (required typed "<path>" rest).map fun rest => .load (.ofList rest)
  | "fields" => .ok .fields
  | "show" => .ok .list
  | "where" => (required typed "<clause>" rest).map fun rest => .filter (.ofList rest)
  | "sort" =>
    (required typed "<field [ASC|DESC], ...>" rest).map fun rest => .sort (.ofList rest)
  | "select" => (required typed "<fields> [where <clause>]" rest).map readSelect
  | "update" =>
    (required typed "<field=\"value\", ...> where <clause>" rest).bind readUpdate
  | "delete" => (required typed "<clause>" rest).map fun rest => .delete (.ofList rest)
  | "insert" => (required typed "<csv row>" rest).map fun rest => .insert (.ofList rest)
  | "distinct" => .ok (.distinct (if rest.isEmpty then none else some (.ofList rest)))
  | "commit" => readCommit rest
  | "export" => readGive rest
  | "logs" => readLogs rest
  | "help" | "\\help" | "?" => .ok .help
  | "quit" | "exit" | "\\q" => .ok .quit
  | other => .error (.unknownVerb other)

def read (line : String) : Except CommandError Command :=
  let (verb, rest) := cutVerb (Text.trim line.toList)
  readVerb verb rest

section Line

variable {verb : List Char} (present : verb ≠ []) (solid : ∀ c ∈ verb, Text.isBlank c = false)
  {blank : Char} (gap : Text.isBlank blank = true)
include present solid gap

theorem cutVerb_trim (held : List Char) :
    cutVerb (Text.trim (verb ++ blank :: held.reverse)) = (verb, Text.trim held.reverse) := by
  induction held with
  | nil =>
    rw [List.reverse_nil, Text.trim_concat gap, Text.trim_of_no_blank solid, cutVerb,
      Text.cutAtBlank_of_no_blank solid]
    rfl
  | cons c held ih =>
    rw [List.reverse_cons]
    by_cases ended : Text.isBlank c = true
    · rw [← List.cons_append, ← List.append_assoc, Text.trim_concat ended, Text.trim_concat ended,
        ih]
    · have whole : Text.trim (verb ++ blank :: (held.reverse ++ [c])) =
          verb ++ blank :: (held.reverse ++ [c]) := by
        apply Text.trim_of_ends
        · rw [List.head?_append, List.head?_eq_some_head present, Option.some_or]
          rintro c ⟨⟩
          exact solid _ (List.head_mem present)
        · rw [← List.cons_append, ← List.append_assoc, List.getLast?_concat]
          rintro c ⟨⟩
          exact Bool.eq_false_iff.mpr ended
      rw [whole, cutVerb, Text.cutAtBlank_append solid gap]

theorem read_line (rest : List Char) :
    read (String.ofList (verb ++ blank :: rest)) = readVerb verb (Text.trim rest) := by
  have cut := cutVerb_trim present solid gap rest.reverse
  rw [List.reverse_reverse] at cut
  rw [read, String.toList_ofList, cut]

end Line

end Command

end TableQuery
