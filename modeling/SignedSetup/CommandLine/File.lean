import SignedSetup.Text.Lines
import SignedSetup.Text.Quoted
import SignedSetup.Text.Utf8

/-!
# Files

A file is named by a path. A path is written without empty parts and without parts that stand for
the directory they are in. A directory of files is a list of names with octets; a name with slashes
puts its file into directories below.
-/

namespace SignedSetup.CommandLine

/-- Why a file cannot be read. -/
inductive FileFault where
  | missing
  | isDirectory
  | notDirectory
  /-- The path, or a name in it, has too many octets. -/
  | nameTooLong
  /-- The name holds the character U+0000. -/
  | nullCharacter
  /-- The system gives another reason, with its number. -/
  | refused (number : Nat) (reason : Text)
deriving DecidableEq

/-- What is said of a file that cannot be read, by its path. -/
def FileFault.message (path : Text) : FileFault → Text
  | .missing => "[Errno 2] No such file or directory: " ++ path.quoted
  | .isDirectory => "[Errno 21] Is a directory: " ++ path.quoted
  | .notDirectory => "[Errno 20] Not a directory: " ++ path.quoted
  | .nameTooLong => "[Errno 36] File name too long: " ++ path.quoted
  | .nullCharacter => "embedded null byte"
  | .refused number reason =>
    "[Errno " ++ Decimal.ofNat number ++ "] " ++ reason ++ ": " ++ path.quoted

/-- What separates the parts of a path. -/
def slash : CodePoint := ('/' : Char)

/-- The parts of a path that count. -/
def pathParts (name : Text) : List Text :=
  (name.splitOn slash).filter fun part => !(part.isEmpty || part = ".")

/-- The slashes that a path begins with: two are kept, any other number stands for one. -/
def rootOf (name : Text) : Text :=
  match (name.takeWhile (· = slash)).length with
  | 0 => []
  | 2 => [slash, slash]
  | _ => [slash]

/-- The path that a name stands for. -/
def pathOf (name : Text) : Text :=
  let path := rootOf name ++ Text.join [slash] (pathParts name)
  if path.isEmpty then "." else path

/-- Reading a file by its path. -/
abbrev FileReader := Text → Except FileFault Bytes

/-- The most octets that a path may have. -/
def pathLimit : Nat := 4095

/-- The most octets that a name in a path may have. -/
def nameLimit : Nat := 255

/-- A directory with files. -/
structure Directory where
  files : List (Text × Bytes)

namespace Directory

/-- The octets of the file that is reached through the parts of a path, from a directory on. Of
what lies above, nothing is known but that there are directories. -/
def follow (d : Directory) (here : List Text) : List Text → Except FileFault Bytes
  | [] => .error .isDirectory
  | part :: parts =>
    if part = ".." then
      if here.isEmpty then follow ⟨[]⟩ [] parts else d.follow here.dropLast parts
    else if nameLimit < part.utf8.length then .error .nameTooLong
    else
      let there := here ++ [part]
      match (d.files.map fun (name, bytes) => (pathParts name, bytes)).lookup there with
      | some bytes => if parts.isEmpty then .ok bytes else .error .notDirectory
      | none =>
        if d.files.any fun (name, _) => there.isPrefixOf (pathParts name) then
          d.follow there parts
        else .error .missing

/-- The octets of a file of a directory. Outside it there is nothing but the root. -/
def read (d : Directory) : FileReader := fun path =>
  if path.contains 0 then .error .nullCharacter
  else if pathLimit < path.utf8.length then .error .nameTooLong
  else if path.head? = some slash then Directory.follow ⟨[]⟩ [] (pathParts path)
  else d.follow [] (pathParts path)

end Directory

end SignedSetup.CommandLine
