import HostRoster.Json.Reader
import HostRoster.Json.Writer
import HostRoster.Program.Machine
import HostRoster.Text.Utf8
import HostRoster.Wire.Store

/-!
# State files

The snapshot of a store as indented JSON. A file that is not there is the empty snapshot. A snapshot
is written to a file next to the state file, which then takes its place, so a state file is never
half written.
-/

namespace HostRoster

open HostRoster.Json

/-- Why a state file cannot be read or written. -/
inductive StateError where
  /-- The file cannot be read or written. -/
  | file (cause : FileError)
  /-- Its content is no snapshot. -/
  | content (cause : DecodeError)
  deriving DecidableEq, Repr

namespace StateError

/-- What the message for content that is no snapshot starts with. -/
def contentLead : String := "State file is not valid JSON: "

/-- The error as it is shown. -/
def message : StateError → String
  | .file cause => "State file I/O failed: " ++ cause.message
  | .content cause => contentLead ++ cause.message

end StateError

namespace Snapshot

/-- The JSON text that bytes encode. A byte that is no text may stand in parts that do not count. -/
def document (content : ByteArray) : Document :=
  match Text.ofUtf8? content with
  | some s => Json.read s
  | none =>
    let (standIn, cs) := Text.lossyChars content
    Json.readChars (some standIn) cs

/-- The snapshot in the content of a state file. -/
def ofContent (content : ByteArray) : Except DecodeError Snapshot :=
  (document content).decode (Wire.snapshot.decode .text)

/-- The content of a state file. -/
def content (s : Snapshot) : ByteArray := (Wire.snapshotValue s).indentedText.toUTF8

variable {m : Type → Type} [Monad m] [Machine m]

/-- Reads a state file. -/
def load (path : String) : m (Except StateError Snapshot) := do
  match ← Machine.read path with
  | .ok content => return (ofContent content).mapError .content
  | .error .notFound => return .ok .empty
  | .error e => return .error (.file e)

/-- The path of the file that is written before it takes the place of a state file. -/
def temporaryPath (path : String) : String :=
  ((Path.ofText path).withExtension "json.tmp").text

/-- Makes the directory of a state file. -/
def makeParent (path : String) : m (Except FileError Unit) :=
  match (Path.ofText path).parent? with
  | some parent => Machine.makeDirectories parent
  | none => return .ok ()

/-- Writes a state file. -/
def save (path : String) (s : Snapshot) : m (Except StateError Unit) := do
  match ← makeParent path with
  | .error e => return .error (.file e)
  | .ok () =>
    match ← Machine.write (temporaryPath path) s.content with
    | .error e => return .error (.file e)
    | .ok () => return (← Machine.rename (temporaryPath path) path).mapError .file

end Snapshot

end HostRoster
