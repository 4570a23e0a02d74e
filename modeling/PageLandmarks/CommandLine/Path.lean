import PageLandmarks.Text.Quoted
import PageLandmarks.Text.Utf8

/-!
# PageLandmarks.CommandLine.Path

**Paths and the files they lead to.** A path is shown and opened in its normal
form, without empty components and without `.`; `..` stays, since what it leads to
depends on the files there are. `FileTree` is a working directory with all that is
in it.
-/

namespace PageLandmarks.CommandLine

/-! ### Paths -/

/-- The root that a path begins with: two slashes stay two, any other number of
them is one. -/
def rootOf (path : String) : String :=
  match (path.toList.takeWhile (· == '/')).length with
  | 0 => ""
  | 2 => "//"
  | _ => "/"

/-- The components of a path that lead somewhere. -/
def components (path : String) : List String :=
  ((path.toList.splitOn '/').map String.ofList).filter fun c => c != "" && c != "."

/-- The normal form of a path. -/
def normalPath (path : String) : String :=
  match rootOf path ++ "/".intercalate (components path) with
  | "" => "."
  | s => s

/-! ### Errors -/

/-- Why a file cannot be read as text. -/
inductive ReadError
  | notFound
  | isDirectory
  | notDirectory
  | nameTooLong
  | undecodable (e : Text.Utf8.DecodeError)
  deriving Repr, DecidableEq

/-- The wording of a read error about the file at a path. -/
def ReadError.message (path : String) : ReadError → String
  | notFound => "[Errno 2] No such file or directory: " ++ Text.quoted path
  | isDirectory => "[Errno 21] Is a directory: " ++ Text.quoted path
  | notDirectory => "[Errno 20] Not a directory: " ++ Text.quoted path
  | nameTooLong => "[Errno 36] File name too long: " ++ Text.quoted path
  | undecodable e => e.message

/-- The greatest number of octets in a component of a path. -/
def nameLimit : Nat := 255

/-- The number of octets that is too great for a whole path. -/
def pathLimit : Nat := 4096

/-! ### Files in memory -/

/-- What a path can lead to. -/
inductive Entry
  | file (bytes : List UInt8)
  | directory

/-- A working directory: the entries in and below it by their components. The
directories on the way to an entry need not be listed. -/
structure FileTree where
  /-- The entries. -/
  entries : List (List String × Entry)

namespace FileTree

/-- What the components lead to from the working directory, without `..`. -/
def lookup? (t : FileTree) (path : List String) : Option Entry :=
  match t.entries.find? fun e => e.1 == path with
  | some e => some e.2
  | none =>
    if path.isEmpty || t.entries.any (fun e => path.isPrefixOf e.1) then some .directory else none

/-- Follow the components of a path from the directory `here`, whose components
are in reverse, or from `above` levels above the working directory, where nothing
else is known to be. -/
def follow (t : FileTree) (above : Nat) (here : List String) :
    List String → Except ReadError (List UInt8)
  | [] => .error .isDirectory
  | ".." :: rest =>
    match here with
    | [] => follow t (above + 1) [] rest
    | _ :: up => follow t above up rest
  | name :: rest =>
    if nameLimit < name.utf8ByteSize then .error .nameTooLong
    else if 0 < above then .error .notFound
    else
      match t.lookup? (here.reverse ++ [name]) with
      | none => .error .notFound
      | some .directory => follow t above (name :: here) rest
      | some (.file bytes) => if rest.isEmpty then .ok bytes else .error .notDirectory

/-- The content of the file at a path. Of what an absolute path leads to, only
the root is known. -/
def read (t : FileTree) (path : String) : Except ReadError (List UInt8) :=
  if pathLimit ≤ path.utf8ByteSize then .error .nameTooLong
  else if rootOf path = "" then t.follow 0 [] (components path)
  else t.follow 1 [] (components path)

end FileTree

end PageLandmarks.CommandLine
