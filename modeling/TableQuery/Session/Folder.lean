/-! A folder of files in memory. Paths name files directly in it; there are no folders in a folder,
so a path that needs one names nothing. The null device alone stands outside of it: it is empty, and
what is written to it is gone. -/

namespace TableQuery

structure Folder where
  files : List (String × ByteArray) := []

namespace Folder

def stepsAside : List Char → List Char
  | '.' :: '/' :: rest => stepsAside (rest.dropWhile (· == '/'))
  | path => path
termination_by path => path.length
decreasing_by
  have kept := (List.dropWhile_suffix (l := rest) (· == '/')).length_le
  simp only [List.length_cons]
  omega

def nullDevice : String := "/dev/null"

/-- The longest name that a file may have, in bytes. -/
def nameLimit : Nat := 255

def pathLimit : Nat := 4095

def fileName? (path : String) : Option String :=
  let name := stepsAside path.toList
  if name.isEmpty || name == ['.'] || name == ['.', '.'] || name.contains '/' ||
      name.contains '\x00' || nameLimit < (String.ofList name).utf8ByteSize ||
      pathLimit < path.utf8ByteSize then none
  else some (String.ofList name)

def read? (folder : Folder) (path : String) : Option ByteArray :=
  if path = nullDevice then some .empty
  else (fileName? path).bind fun name => folder.files.lookup name

def readText? (folder : Folder) (path : String) : Option String :=
  (folder.read? path).bind String.fromUTF8?

def put (name : String) (content : ByteArray) :
    List (String × ByteArray) → List (String × ByteArray)
  | [] => [(name, content)]
  | (other, old) :: rest =>
    if other = name then (other, content) :: rest else (other, old) :: put name content rest

def write? (folder : Folder) (path : String) (content : ByteArray) : Option Folder :=
  if path = nullDevice then some folder
  else (fileName? path).map fun name => { files := put name content folder.files }

theorem lookup_put (name : String) (content : ByteArray) (files : List (String × ByteArray)) :
    (put name content files).lookup name = some content := by
  induction files with
  | nil => exact List.lookup_cons_self
  | cons file rest ih =>
    rw [put]
    split
    next same =>
      rw [same]
      exact List.lookup_cons_self
    next other =>
      have apart : (name == file.1) = false := beq_eq_false_iff_ne.mpr (Ne.symm other)
      rw [List.lookup_cons, apart]
      exact ih

theorem readText?_of_write? {path name : String} (named : fileName? path = some name)
    (folder : Folder) (text : String) : ∃ written,
      folder.write? path text.toUTF8 = some written ∧ written.readText? path = some text := by
  have inside : path ≠ nullDevice := by
    rintro rfl
    have outside : fileName? nullDevice = none := by decide +kernel
    rw [outside] at named
    cases named
  refine ⟨{ files := put name text.toUTF8 folder.files }, ?_, ?_⟩
  · rw [write?, if_neg inside, named]
    rfl
  · have stored : read? { files := put name text.toUTF8 folder.files } path = some text.toUTF8 := by
      rw [read?, if_neg inside, named]
      exact lookup_put name text.toUTF8 folder.files
    rw [readText?, stored, Option.bind_some, String.fromUTF8?]
    exact dif_pos text.isValidUTF8

def sorted (folder : Folder) : List (String × ByteArray) :=
  folder.files.mergeSort fun a b => a.1 ≤ b.1

end Folder

end TableQuery
