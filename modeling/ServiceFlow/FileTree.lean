import ServiceFlow.Text.LineBreaks
import ServiceFlow.Text.Quoted
import ServiceFlow.Text.Utf8

/-!
# File trees

A tree of files below a working directory: the directories are those that the files lie in and those
that were made on the way to them. A path is a list of names to walk down; `..` walks up again. Of
what lies outside the working directory only the directories around it and those at the top of the
system are known, and the null device, which is always empty. Reading and writing fail as a file
system fails, with the path in its normal form: without empty and `.` segments, and `.` for the
empty path.
-/

namespace ServiceFlow

/-- A path in normal form. -/
structure Path where
  /-- One or two slashes for a path that does not start at the working directory. -/
  root : String := ""
  segments : List String
  deriving DecidableEq, Repr

namespace Path

/-- What a path starts at: exactly two slashes are kept, more count as one. -/
def rootOf (s : String) : String :=
  match s.toList with
  | '/' :: '/' :: '/' :: _ => "/"
  | '/' :: '/' :: _ => "//"
  | '/' :: _ => "/"
  | _ => ""

/-- The normal form of a path. -/
def ofString (s : String) : Path :=
  ⟨rootOf s, (s.splitOn "/").filter fun name => name != "" && name != "."⟩

/-- The text of a path. -/
def render (p : Path) : String :=
  if p.root = "" ∧ p.segments = [] then "." else p.root ++ String.intercalate "/" p.segments

end Path

/-- Why a path cannot be read or written. -/
inductive FileCause where
  | missing
  | isDirectory
  | notDirectory
  | tooLong
  | nullCharacter
  deriving DecidableEq, Repr

/-- A failure at a path. -/
structure FileFault where
  cause : FileCause
  path : Path
  deriving DecidableEq, Repr

/-- The words that stand for a cause, with the number of the system's error if it is one. -/
def FileCause.message : FileCause → String
  | missing => "[Errno 2] No such file or directory"
  | isDirectory => "[Errno 21] Is a directory"
  | notDirectory => "[Errno 20] Not a directory"
  | tooLong => "[Errno 36] File name too long"
  | nullCharacter => "embedded null byte"

/-- The failure in words. A path that holds a null character is not named. -/
def FileFault.message (f : FileFault) : String :=
  match f.cause with
  | .nullCharacter => f.cause.message
  | cause => s!"{cause.message}: {Text.quoted f.path.render}"

/-- The most bytes of a name in a directory. -/
def nameLimit : Nat := 255

/-- The most bytes of a path. -/
def pathLimit : Nat := 4095

/-- The directories at the top of the system. -/
def systemDirectories : List String :=
  ["bin", "boot", "dev", "etc", "home", "lib", "media", "mnt", "opt", "proc", "root", "run", "sbin",
    "srv", "sys", "tmp", "usr", "var"]

/-- Where a path leads. -/
inductive Place where
  /-- Below the working directory. -/
  | inside (names : List String)
  /-- Some directory around the working directory. -/
  | around
  /-- Below the top of the system. -/
  | system (names : List String)
  /-- At a name of which nothing is known. -/
  | unknown
  deriving DecidableEq, Repr

namespace Place

/-- The place of a name in a directory. -/
def child : Place → String → Place
  | inside names, name => inside (names ++ [name])
  | system names, name => system (names ++ [name])
  | around, _ | unknown, _ => unknown

/-- The directory around a place. The top of the system is the directory around itself. -/
def parent : Place → Place
  | inside [] => around
  | inside names => inside names.dropLast
  | system names => system names.dropLast
  | around => around
  | unknown => around

/-- What a path starts at. -/
def start (p : Path) : Place := if p.root = "" then inside [] else system []

end Place

/-- The files below a working directory, by the names that lead to them. -/
structure FileTree where
  files : List (List String × List UInt8) := []
  /-- Directories that need not hold a file. -/
  directories : List (List String) := []
  deriving DecidableEq, Repr

namespace FileTree

/-- What is at a place. -/
inductive Entry where
  | file (content : List UInt8)
  | directory
  | nothing
  deriving DecidableEq, Repr

/-- What is below the working directory at the place to which some names lead. -/
def entry (t : FileTree) (names : List String) : Entry :=
  match t.files.find? (·.1 == names) with
  | some (_, content) => .file content
  | none =>
    if names.isEmpty || t.directories.contains names || t.files.any (names.isPrefixOf ·.1) then
      .directory
    else .nothing

/-- What is at a place. -/
def entryAt (t : FileTree) : Place → Entry
  | .inside names => t.entry names
  | .around | .system [] => .directory
  | .system [name] => if systemDirectories.contains name then .directory else .nothing
  | .system ["dev", "null"] => .file []
  | .system _ | .unknown => .nothing

/-- Walks from a place along the segments of a path, and gives the place at which the path ends, or
what stands in the way. -/
def walk (t : FileTree) (place : Place) : List String → Except FileCause Place
  | [] => .ok place
  | segment :: rest =>
    match t.entryAt place with
    | .file _ => .error .notDirectory
    | .nothing => .error .missing
    | .directory =>
      if segment = ".." then t.walk place.parent rest
      else if nameLimit < segment.utf8ByteSize then .error .tooLong
      else t.walk (place.child segment) rest

/-- The place to which a path leads. -/
def locate (t : FileTree) (p : Path) : Except FileFault Place :=
  if p.render.toList.contains '\x00' then .error ⟨.nullCharacter, p⟩
  else if pathLimit < p.render.utf8ByteSize then .error ⟨.tooLong, p⟩
  else (t.walk (Place.start p) p.segments).mapError (⟨·, p⟩)

/-- The content of the file at a path. -/
def read (t : FileTree) (p : Path) : Except FileFault (List UInt8) := do
  match t.entryAt (← t.locate p) with
  | .file content => return content
  | .directory => throw ⟨.isDirectory, p⟩
  | .nothing => throw ⟨.missing, p⟩

/-- The tree with the file at a path created or replaced. A file outside the working directory
changes nothing in it. -/
def write (t : FileTree) (p : Path) (content : List UInt8) : Except FileFault FileTree := do
  let place ← t.locate p
  match t.entryAt place, place with
  | .directory, _ => throw ⟨.isDirectory, p⟩
  | _, .inside names =>
    return { t with files := t.files.filter (·.1 != names) ++ [(names, content)] }
  | _, _ => return t

/-- Makes the directories on the way along some segments, and gives the place they lead to. -/
def makeDirectories (t : FileTree) (names : List String) : List String → FileTree × List String
  | [] => (t, names)
  | segment :: rest =>
    if segment = ".." then t.makeDirectories names.dropLast rest
    else
      let next := names ++ [segment]
      makeDirectories { t with directories := next :: t.directories } next rest

/-- The tree with a file put at a path, and the directories on the way to it made. -/
def place (t : FileTree) (p : Path) (content : List UInt8) : FileTree :=
  let (made, parent) := t.makeDirectories [] p.segments.dropLast
  let names := parent ++ p.segments.getLast?.toList
  { made with files := made.files.filter (·.1 != names) ++ [(names, content)] }

/-- The files of a tree that another does not have with the same content. -/
def changes (before after : FileTree) : List (List String × List UInt8) :=
  after.files.filter fun f => before.entry f.1 != .file f.2

end FileTree

/-- The text of bytes read as a text file. -/
def textOfFile (bytes : List UInt8) : Except Text.Utf8Fault String :=
  (Text.Utf8.decode bytes).map fun s => String.ofList (Text.unifyLineBreaks s.toList)

end ServiceFlow
