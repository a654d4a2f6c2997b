import HostRoster.Environment.Variables
import HostRoster.File.System

/-!
# Machines

What the program asks of the machine it runs on: variables, files and the working directory. A file
system with a list of variables is a machine in memory, on which whole calls of the program are
values. No theorem is about that machine: what becomes of the state file is proved for machines on
which any operation on files may fail.
-/

namespace HostRoster

/-- A machine on which programs of a monad run. -/
class Machine (m : Type → Type) where
  /-- The value of a variable. -/
  lookUp : String → m (Option String)
  /-- The names from the root to the working directory. -/
  workingDirectory : m (List String)
  /-- The content of a file. -/
  read : String → m (Except FileError ByteArray)
  /-- Makes a directory and those above it, unless they are there. -/
  makeDirectories : Path → m (Except FileError Unit)
  /-- Writes a file, in place of the one that is there. -/
  write : String → ByteArray → m (Except FileError Unit)
  /-- Moves a file to another path, in place of the file that is there. -/
  rename : String → String → m (Except FileError Unit)

/-- A machine in memory. -/
structure MemoryMachine where
  /-- The variables. -/
  environment : Environment.Variables
  /-- The files. -/
  files : FileSystem

namespace MemoryMachine

/-- Changes the files, unless that fails. -/
def change (result : FileSystem → Except FileError FileSystem) (m : MemoryMachine) :
    Except FileError Unit × MemoryMachine :=
  match result m.files with
  | .ok files => (.ok (), { m with files := files })
  | .error e => (.error e, m)

/-- Makes a directory and those above it, unless they are there. -/
def makeDirectories (p : Path) (m : MemoryMachine) : Except FileError Unit × MemoryMachine :=
  let (result, files) := m.files.makeDirectories p.ancestors
  (result, { m with files := files })

instance : Machine (StateM MemoryMachine) where
  lookUp name := fun m => (m.environment.value? name, m)
  workingDirectory := fun m => (m.files.workingDirectory, m)
  read path := fun m => (m.files.read path, m)
  makeDirectories p := makeDirectories p
  write path content := change fun files => files.write path content
  rename source target := change fun files => files.rename source target

end MemoryMachine

end HostRoster
