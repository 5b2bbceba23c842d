import TableQuery.Session.Screen

/-! The shell at a terminal: it reads commands line by line, answers what a command asks of files
from the disk, and shows the outcomes. The times of journal entries count from the start. -/

namespace TableQuery.Terminal

def settingsPath? : IO (Option String) := do
  return (← IO.getEnv "HOME").map fun home => home ++ "/.config/tabula/config.toml"

def readText? (path : String) : IO (Option String) := do
  try
    return some (← IO.FS.readFile path)
  catch _ =>
    return none

def writeText (path text : String) : IO Bool := do
  try
    IO.FS.writeFile path text
    return true
  catch _ =>
    return false

def printAll (lines : List String) : IO Unit := lines.forM fun line => IO.println line

/-- Settings that cannot be used give way to the default ones. -/
def loadSettings : IO Settings := do
  let some path ← settingsPath? | return {}
  let some document ← readText? path | return {}
  match Settings.read document with
  | .ok settings => return settings
  | .error error =>
    IO.eprintln ("Config error, using defaults: " ++ error.message)
    return {}

def generateSettings : IO Unit := do
  let some path ← settingsPath?
    | IO.eprintln "Could not determine config directory"
  try
    IO.FS.createDirAll (path.dropEnd "/config.toml".length).toString
  catch _ =>
    pure ()
  if ← writeText path Settings.commentedDefault then
    IO.println ("Configuration file created at: " ++ path)
  else
    IO.eprintln ("Failed to write " ++ path)

def carryOut : Step → IO Reply
  | .done reply => return reply
  | .read path resume => return resume (← readText? path)
  | .write path text resume => return resume (← writeText path text)

def showError (message : String) : IO Unit := IO.eprintln ("Error: " ++ message)

def act (started : Nat) (session : Session) (command : Command) : IO (Bool × Session) := do
  let time := Screen.clockText ((← IO.monoMsNow) - started)
  let (outcome, session) ← carryOut (session.execute time command)
  match outcome with
  | .ok .quit => return (false, session)
  | .ok outcome =>
    printAll (Screen.outcomeLines outcome)
    return (true, session)
  | .error error =>
    showError error.message
    return (true, session)

def actLine (started : Nat) (session : Session) (line : String) : IO (Bool × Session) := do
  if (Text.trimmed line).isEmpty then
    return (true, session)
  match Command.read line with
  | .ok command => act started session command
  | .error error =>
    showError error.message
    return (true, session)

partial def shell (started : Nat) (input output : IO.FS.Stream) (session : Session) : IO Unit := do
  output.putStr (Screen.prompt session)
  output.flush
  let line ← input.getLine
  if line.isEmpty then
    IO.println "\nGoodbye!"
  else
    let (goOn, session) ← actLine started session line
    if goOn then
      shell started input output session

def start (file : Option String) : IO Unit := do
  let started ← IO.monoMsNow
  let session : Session := { settings := ← loadSettings }
  let session ← match file with
    | some path => Prod.snd <$> act started session (.load path)
    | none => pure session
  IO.println "Type 'help' for commands, 'quit' to exit."
  shell started (← IO.getStdin) (← IO.getStdout) session

def run (args : List String) : IO Unit := do
  if args.contains "--help" || args.contains "-h" then
    printAll (Screen.helpLines Registry.builtins.predicateNames Registry.builtins.setterNames)
  else if args.contains "--generate-config" then
    generateSettings
  else
    start (args.find? fun arg => !arg.startsWith "--")

end TableQuery.Terminal

def main (args : List String) : IO Unit := TableQuery.Terminal.run args
