import TableQuery.Text.Blank
import TableQuery.Text.Digits
import TableQuery.Text.Quoted
import TableQuery.Text.Split

/-! The journal keeps the newest entries, oldest first. Entries are added as they are or read from
lines that start with a level and a target. Events write such lines, with the characters that a
terminal would act on written as numbers. -/

namespace TableQuery

inductive Level
  | error
  | warn
  | info
  | debug
  | trace
deriving DecidableEq, Inhabited

namespace Level

def name : Level → String
  | .error => "ERROR"
  | .warn => "WARN"
  | .info => "INFO"
  | .debug => "DEBUG"
  | .trace => "TRACE"

def ofNumber? : Nat → Option Level
  | 1 => some .error
  | 2 => some .warn
  | 3 => some .info
  | 4 => some .debug
  | 5 => some .trace
  | _ => none

def ofText? (text : List Char) : Option Level :=
  match (Text.count? text).bind ofNumber? with
  | some level => some level
  | none => [error, warn, info, debug, trace].find? fun level =>
      level.name.toList.map Char.toLower == text.map Char.toLower

end Level

structure Entry where
  time : String
  level : Level
  target : String
  message : String
deriving DecidableEq, Inhabited

namespace Entry

def display (entry : Entry) : String :=
  "[" ++ entry.time ++ "] " ++ entry.level.name ++ " [" ++ entry.target ++ "] " ++ entry.message

/-- The entry after its level: a target without blanks up to the first colon, then the message.
Without such a target all of it is the message. -/
def afterLevel (time : String) (level : Level) (text : List Char) : Entry :=
  match Text.cutAt ':' text with
  | some (target, message) =>
    if target.contains ' ' then
      { time := time, level := level, target := "general", message := String.ofList text }
    else
      { time := time, level := level, target := String.ofList target,
        message := String.ofList (Text.trim message) }
  | none => { time := time, level := level, target := "general", message := String.ofList text }

/-- The entry of a line. A line that starts with no level is a message as a whole. -/
def ofLine (time : String) (line : List Char) : Entry :=
  match Text.cutAt ' ' line with
  | some (word, rest) =>
    match Level.ofText? word with
    | some level => afterLevel time level (Text.trimStart rest)
    | none => { time := time, level := .info, target := "general", message := String.ofList line }
  | none => { time := time, level := .info, target := "general", message := String.ofList line }

end Entry

structure Journal where
  entries : List Entry := []
deriving DecidableEq, Inhabited

namespace Journal

def capacity : Nat := 1000

def push (journal : Journal) (entry : Entry) : Journal :=
  let kept := if capacity ≤ journal.entries.length then journal.entries.drop 1 else journal.entries
  { entries := kept ++ [entry] }

def recent (journal : Journal) (count : Nat) : List Entry :=
  (journal.entries.reverse.take count).reverse

def clear (_ : Journal) : Journal := {}

def size (journal : Journal) : Nat := journal.entries.length

def isEmpty (journal : Journal) : Bool := journal.entries.isEmpty

def linesOf (text : List Char) : List (List Char) :=
  ((Text.lines text).map Text.trim).filter (!·.isEmpty)

def writeText (journal : Journal) (time : String) (text : List Char) : Journal :=
  (linesOf text).foldl (fun journal line => journal.push (Entry.ofLine time line)) journal

/-- Bytes that are no text add nothing; all of them count as written. -/
def write (journal : Journal) (time : String) (bytes : ByteArray) : Journal × Nat :=
  match String.fromUTF8? bytes with
  | some text => (journal.writeText time text.toList, bytes.size)
  | none => (journal, bytes.size)

def isTerminalControl (c : Char) : Bool := ['\x07', '\x08', '\x0c', '\x1b', '\x7f'].contains c

def shownChar (c : Char) : List Char :=
  if isTerminalControl c then
    ['\\', 'x', Nat.digitChar (c.toNat / 16), Nat.digitChar (c.toNat % 16)]
  else if '\x80' ≤ c && c < '\xa0' then
    ['\\', 'u', '{'] ++ Text.hexDigits c.toNat ++ ['}']
  else [c]

def lineOf (level : Level) (target message : String) : List Char :=
  (level.name ++ " " ++ target ++ ": ").toList ++ message.toList.flatMap shownChar ++ ['\n']

def record (journal : Journal) (time : String) (level : Level) (target message : String) :
    Journal :=
  journal.writeText time (lineOf level target message)

end Journal

end TableQuery
