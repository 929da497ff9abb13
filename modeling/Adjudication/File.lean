/-!
# Files

What reading the text of a file gives, and a folder of files to read from.
-/

namespace Adjudication

inductive ReadFailure where
  | missing
  | isFolder
  | notAFolder
  | tooLong
  | notText
  deriving DecidableEq, Repr

def ReadFailure.message : ReadFailure → String
  | .missing => "No such file or directory (os error 2)"
  | .isFolder => "Is a directory (os error 21)"
  | .notAFolder => "Not a directory (os error 20)"
  | .tooLong => "File name too long (os error 36)"
  | .notText => "stream did not contain valid UTF-8"

abbrev Contents := Except ReadFailure String

def Contents.ofBytes (bytes : ByteArray) : Contents :=
  match String.fromUTF8? bytes with
  | some text => .ok text
  | none => .error .notText

structure Folder where
  files : List (String × ByteArray)

inductive Place where
  | folder
  | file (bytes : ByteArray)
  /-- A folder that holds the folder, of which nothing else is known. -/
  | outside
  /-- The folder that holds everything, of which only the devices are known. -/
  | root
  /-- The folder of the devices, of which only the one is known that is always empty. -/
  | devices

/-- The folder that holds a place. -/
def Place.parent : Place → Place
  | .root | .devices => .root
  | _ => .outside

namespace Folder

def nameLimit : Nat := 255

def pathLimit : Nat := 4095

def step (folder : Folder) : Place → String → Except ReadFailure Place
  | .file _, _ => .error .notAFolder
  | place, name =>
    if name = "" || name = "." then .ok place
    else if name = ".." then .ok place.parent
    else if nameLimit < name.utf8ByteSize then .error .tooLong
    else
      match place, name, folder.files.lookup name with
      | .folder, _, some bytes => .ok (.file bytes)
      | .root, "dev", _ => .ok .devices
      | .devices, "null", _ => .ok (.file .empty)
      | _, _, _ => .error .missing

/-- Reads the file at a path, which starts in the folder unless it starts with a slash. -/
def read (folder : Folder) (path : String) : Contents := do
  if pathLimit < path.utf8ByteSize then throw .tooLong
  let start := if path.startsWith "/" then Place.root else Place.folder
  match ← (path.splitOn "/").foldlM folder.step start with
  | .file bytes => Contents.ofBytes bytes
  | _ => .error .isFolder

end Folder

end Adjudication
