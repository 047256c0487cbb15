/-!
# Files to send

A file is uploaded from a path or from memory, and the server sees its name (`LocalFile`). Or the
server has it already (`RemoteFile`).
-/

namespace Messenger

/-- A file that has yet to be uploaded. -/
inductive LocalFile where
  /-- A file on disk. -/
  | path (path : String)
  /-- Contents in memory, under the name of a file. -/
  | bytes (name : String) (data : List UInt8)
deriving DecidableEq, Inhabited

/-- A file that the server has, such as one of an earlier message. -/
structure RemoteFile where
  id : Int64
  accessHash : Int64
  fileReference : List UInt8
deriving DecidableEq, Inhabited

namespace File

/-- The parts of a path between its slashes. -/
def segments : List Char → List (List Char)
  | [] => [[]]
  | c :: rest =>
    match segments rest with
    | [] => [[c]]
    | segment :: others => if c = '/' then [] :: segment :: others else (c :: segment) :: others

/-- The last part of a path that is neither empty nor a single dot, unless it leads upwards. -/
def nameOfPath? (path : List Char) : Option (List Char) :=
  match ((segments path).filter fun segment => segment ≠ [] ∧ segment ≠ ['.']).getLast? with
  | some ['.', '.'] => none
  | last => last

end File

/-- The name that the server will see; a path without a name is called a file. -/
def LocalFile.name : LocalFile → String
  | .path location => (File.nameOfPath? location.toList).elim "file" .ofList
  | .bytes name _ => name

end Messenger
