import TableQuery.Session.Basic
import TableQuery.Session.Folder

/-! Sessions over a folder in memory: what a command asks of files is answered from the folder. -/

namespace TableQuery

def Folder.answer (folder : Folder) : Step → Reply × Folder
  | .done reply => (reply, folder)
  | .read path resume => (resume (folder.readText? path), folder)
  | .write path text resume =>
    match folder.write? path text.toUTF8 with
    | some folder => (resume true, folder)
    | none => (resume false, folder)

def Session.executeIn (time : String) (session : Session) (folder : Folder) (command : Command) :
    Reply × Folder :=
  folder.answer (session.execute time command)

def Settings.readFrom (folder : Folder) (path : String) : Except SettingsError Settings :=
  match folder.readText? path with
  | some document => Settings.read document
  | none => .error (.noFile path)

end TableQuery
