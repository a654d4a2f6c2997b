import HostRoster.Dict
import HostRoster.File.Error
import HostRoster.File.Path

/-!
# File systems

A tree of directories and files, given as what stands under each path from the root, and a working
directory. Every operation either happens as a whole or changes nothing, except that a directory may
be made when one below it cannot. The machine in memory has such a file system; no theorem is about
it.
-/

namespace HostRoster

/-- What stands under a path. -/
inductive FileEntry where
  /-- A file with its content. -/
  | file (content : ByteArray)
  /-- A directory. -/
  | directory

/-- Whether it is a directory. -/
def FileEntry.isDirectory : FileEntry → Bool
  | .directory => true
  | .file _ => false

/-- A file system. -/
structure FileSystem where
  /-- What stands under the paths from the root, other than the root itself. -/
  entries : Dict FileEntry
  /-- The names from the root to the working directory. -/
  workingDirectory : List String

namespace FileSystem

/-- The key of the path with the given names from the root. -/
def key (names : List String) : String := names.foldl (fun k n => k ++ "/" ++ n) ""

/-- What stands under the path with the given names from the root. -/
def entry? (fs : FileSystem) (names : List String) : Option FileEntry :=
  if names.isEmpty then some .directory else fs.entries.get? (key names)

/-- The file system with something under the path with the given names. -/
def put (fs : FileSystem) (names : List String) (e : FileEntry) : FileSystem :=
  { fs with entries := fs.entries.insert (key names) e }

/-- The greatest number of bytes of a name. -/
def maxName : Nat := 255

/-- The greatest number of bytes of a path. -/
def maxPath : Nat := 4095

/-- What a path leads to. -/
inductive Place where
  /-- A directory that is there. -/
  | directory (names : List String)
  /-- A name in a directory that is there, and whether the path asks for a directory. -/
  | name (names : List String) (last : String) (asDirectory : Bool)
  deriving DecidableEq, Repr

/-- Goes from a directory through others. -/
def walk (fs : FileSystem) (from' : List String) : List String → Except FileError (List String)
  | [] => .ok from'
  | n :: rest =>
    if n = Path.above then fs.walk from'.dropLast rest
    else if n.utf8ByteSize > maxName then .error .nameTooLong
    else
      match fs.entry? (from' ++ [n]) with
      | some .directory => fs.walk (from' ++ [n]) rest
      | some (.file _) => .error .notDirectory
      | none => .error .notFound

/-- The names from the root to where a path starts. -/
def start (fs : FileSystem) (p : Path) : List String :=
  if p.isAbsolute then [] else fs.workingDirectory

/-- Where a path with at least one character leads to. -/
def placeOf (fs : FileSystem) (p : Path) : Except FileError Place :=
  match p.ending, p.names.getLast? with
  | .dot, _ => (fs.walk (fs.start p) p.names).map .directory
  | _, none => .ok (.directory (fs.start p))
  | ending, some last =>
    if last = Path.above then (fs.walk (fs.start p) p.names).map .directory
    else do
      let names ← fs.walk (fs.start p) p.names.dropLast
      if last.utf8ByteSize > maxName then .error .nameTooLong
      else .ok (.name names last (ending = .slash))

/-- Where a path leads to. -/
def locate (fs : FileSystem) (path : String) : Except FileError Place :=
  if path.toList.contains '\x00' then .error .nulInPath
  else if path.isEmpty then .error .notFound
  else if path.utf8ByteSize > maxPath then .error .nameTooLong
  else fs.placeOf (.ofText path)

/-- The content of a file. -/
def read (fs : FileSystem) (path : String) : Except FileError ByteArray := do
  match ← fs.locate path with
  | .directory _ => .error .isDirectory
  | .name names last asDirectory =>
    match fs.entry? (names ++ [last]) with
    | none => .error .notFound
    | some .directory => .error .isDirectory
    | some (.file content) => if asDirectory then .error .notDirectory else .ok content

/-- Whether there is a directory under a path. -/
def hasDirectory (fs : FileSystem) (path : String) : Bool :=
  match fs.locate path with
  | .error _ => false
  | .ok (.directory _) => true
  | .ok (.name names last _) => (fs.entry? (names ++ [last])).any (·.isDirectory)

/-- Makes a directory. -/
def makeDirectory (fs : FileSystem) (path : String) : Except FileError FileSystem := do
  match ← fs.locate path with
  | .directory _ => .error .exists
  | .name names last _ =>
    match fs.entry? (names ++ [last]) with
    | some _ => .error .exists
    | none => .ok (fs.put (names ++ [last]) .directory)

/-- Makes a directory unless it is there. -/
def ensureDirectory (fs : FileSystem) (path : String) : Except FileError FileSystem :=
  match fs.makeDirectory path with
  | .ok fs => .ok fs
  | .error e => if fs.hasDirectory path then .ok fs else .error e

/-- Makes a directory and those above it, unless they are there. The path of the directory comes
first and is followed by those of the directories above it. -/
def makeDirectories (fs : FileSystem) : List Path → Except FileError Unit × FileSystem
  | [] => (.ok (), fs)
  | path :: above =>
    match fs.ensureDirectory path.text with
    | .ok fs => (.ok (), fs)
    | .error .notFound =>
      match fs.makeDirectories above with
      | (.error e, fs) => (.error e, fs)
      | (.ok (), fs) =>
        match fs.ensureDirectory path.text with
        | .ok fs => (.ok (), fs)
        | .error e => (.error e, fs)
    | .error e => (.error e, fs)

/-- Writes a file, in place of the one that is there. -/
def write (fs : FileSystem) (path : String) (content : ByteArray) :
    Except FileError FileSystem := do
  match ← fs.locate path with
  | .directory _ => .error .isDirectory
  | .name names last asDirectory =>
    if asDirectory || (fs.entry? (names ++ [last])).any (·.isDirectory) then .error .isDirectory
    else .ok (fs.put (names ++ [last]) (.file content))

/-- The names of a place for a file. -/
def Place.forFile : Place → Except FileError (List String)
  | .directory _ => .error .busy
  | .name _ _ true => .error .notDirectory
  | .name names last false => .ok (names ++ [last])

/-- Moves a file to another path, in place of the file that is there. -/
def rename (fs : FileSystem) (source target : String) : Except FileError FileSystem := do
  let s ← fs.locate source
  let t ← fs.locate target
  let s ← s.forFile
  let t ← t.forFile
  match fs.entry? s with
  | some (.file content) =>
    if (fs.entry? t).any (·.isDirectory) then .error .isDirectory
    else .ok ({ fs with entries := fs.entries.erase (key s) }.put t (.file content))
  | some .directory => .error .isDirectory
  | none => .error .notFound

end FileSystem

end HostRoster
