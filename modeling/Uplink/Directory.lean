import Uplink.ConfigFile

/-!
A directory as the files in it: what a path leads to, seen from the directory.

Every directory on the way to a file is there too. Steps of a path that lead nowhere do not count.
-/

namespace Uplink

/-- The files of a directory, by their paths. -/
structure Directory where
  files : List (String × ByteArray)

namespace Directory

/-- The steps of a path. -/
def steps (path : String) : List String :=
  (path.splitOn "/").filter fun step => step ≠ "" && step ≠ "."

/-- Whether one path leads through the other and on. -/
def leadsThrough (path other : List String) : Bool :=
  path ≠ other && other.isPrefixOf path

/-- What a path leads to. A path with a slash at its end leads to no file. -/
def look (directory : Directory) (path : String) : FileContents :=
  let there := steps path
  let paths := directory.files.map fun (other, _) => steps other
  match directory.files.find? fun (other, _) => steps other = there with
  | some (_, bytes) => if path.endsWith "/" then .error .blocked else .ok bytes
  | none =>
    if there.isEmpty || paths.any (leadsThrough · there) then .error .directory
    else if paths.any (leadsThrough there) then .error .blocked
    else .error .missing

end Directory

end Uplink
