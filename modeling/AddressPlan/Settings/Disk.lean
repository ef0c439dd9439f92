import AddressPlan.Text.Pieces
import AddressPlan.Text.Utf8
/-!
# Files by their paths

A disk has directories and files with a text. A path leads from the root, or from the current
directory, through its parts one by one; only a directory leads on, and only a file can be read.
-/
namespace AddressPlan

inductive FileError
  | zeroInPath
  | pathTooLong
  | missing
  | throughFile
  | directory
deriving DecidableEq

def FileError.text : FileError → String
  | zeroInPath => "file name contained an unexpected NUL byte"
  | pathTooLong => "File name too long (os error 36)"
  | missing => "No such file or directory (os error 2)"
  | throughFile => "Not a directory (os error 20)"
  | directory => "Is a directory (os error 21)"

/-- Directories and files are named by the parts that lead to them from the root. -/
structure Disk where
  current : List String
  directories : List (List String)
  files : List (List String × String)

namespace Disk

private def follow (disk : Disk) (here : List String) : List (List Char) → Except FileError String
  | [] => .error .directory
  | part :: parts =>
    let there := here ++ [String.ofList part]
    if part = [] ∨ part = ['.'] then disk.follow here parts
    else if part = ['.', '.'] then disk.follow here.dropLast parts
    else if 255 < (Text.utf8 part).length then .error .pathTooLong
    else if disk.directories.contains there then disk.follow there parts
    else
      match disk.files.lookup there with
      | none => .error .missing
      | some text => if parts = [] then .ok text else .error .throughFile

def read (disk : Disk) (path : String) : Except FileError String :=
  let cs := path.toList
  if cs.contains '\x00' then .error .zeroInPath
  else if cs = [] then .error .missing
  else if 4096 ≤ (Text.utf8 cs).length then .error .pathTooLong
  else disk.follow (if cs.head? = some '/' then [] else disk.current) (Text.pieces '/' cs)

end Disk
end AddressPlan
