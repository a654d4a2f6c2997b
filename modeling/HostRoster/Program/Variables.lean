import HostRoster.Environment.File
import HostRoster.Program.Machine
import HostRoster.Text.Utf8

/-!
# Variables of the program

The variables of the machine and, where it has none of a name, those of the environment file in the
working directory or the nearest directory above it. No variable can have a value with a zero
character, so an assignment of one where the machine has no such variable is an error.
-/

namespace HostRoster.Program

open HostRoster.Environment

variable {m : Type → Type} [Monad m] [Machine m]

/-- The name of the environment file. -/
def environmentFile : String := ".env"

/-- The environment file of a directory, which is given by its names backwards: nothing if there is
none, and no content if it cannot be read. -/
def environmentIn (directory : List String) : m (Option (Option ByteArray)) := do
  let path := (Path.fromRoot (environmentFile :: directory).reverse).text
  match ← Machine.read path with
  | .ok content => return some (some content)
  | .error e => return if e = .notFound || e = .isDirectory then none else some none

/-- The content of the environment file of a directory or the nearest one above it. -/
def findEnvironment : List String → m (Option ByteArray)
  | [] => do return (← environmentIn []).getD none
  | name :: above => do
    match ← environmentIn (name :: above) with
    | some found => return found
    | none => findEnvironment above

/-- The value of a variable of the machine or else of some that were read. -/
def valueOf (read : Variables) (name : String) : m (Option String) := do
  match ← Machine.lookUp name with
  | some v => return some v
  | none => return read.value? name

/-- A part of a value. -/
def expandPiece (read : Variables) : Piece → m String
  | .char c => return String.ofList [c]
  | .reference name => return (← valueOf read name).getD ""

/-- The variables that assignments make, of which an earlier one counts; nothing if one of them
cannot be. -/
def expand (read : Variables) : List Assignment → m (Option Variables)
  | [] => return some read
  | a :: rest => do
    let v := String.join (← a.value.mapM (expandPiece read))
    match ← valueOf read a.name with
    | some _ => expand read rest
    | none => if v.toList.contains '\x00' then return none else expand (read ++ [(a.name, v)]) rest

/-- The variables of the environment file; nothing if one of them cannot be. -/
def readVariables : m (Option Variables) := do
  match ← findEnvironment (← Machine.workingDirectory).reverse with
  | some content => expand [] (readFile (Text.charsFrom content 0))
  | none => return some []

end HostRoster.Program
