import HostRoster.Program.Text
import HostRoster.Timestamp.Clock
import HostRoster.Uuid
import Std.Time.DateTime.Timestamp

/-!
# The executable

The machine that the program runs on, and the program on it.
-/

namespace HostRoster

/-- The error that the operating system reports. -/
def FileError.reported : IO.Error → FileError
  | .noFileOrDirectory _ _ _ => .notFound
  | .noSuchThing _ _ _ => .notFound
  | .inappropriateType _ code _ => if code = 21 then .isDirectory else .notDirectory
  | .alreadyExists _ _ _ => .exists
  | .resourceBusy _ _ => .busy
  | .invalidArgument _ code text => if code = 36 then .nameTooLong else .other text code.toNat
  | .permissionDenied _ code text => .other text code.toNat
  | .resourceExhausted _ code text => .other text code.toNat
  | .otherError code text => .other text code.toNat
  | e => .other (toString e) 0

/-- The result of an operation on files. -/
def attempt {α : Type} (act : IO α) : IO (Except FileError α) := do
  try
    return .ok (← act)
  catch e =>
    return .error (.reported e)

instance : Machine IO where
  lookUp name := IO.getEnv name
  workingDirectory := do return (Path.ofText (← IO.currentDir).toString).names
  read path := attempt (IO.FS.readBinFile path)
  makeDirectories p := attempt (IO.FS.createDirAll p.text)
  write path content := attempt (IO.FS.writeBinFile path content)
  rename source target := attempt (IO.FS.rename source target)

/-- The number that bytes spell. -/
def numberOf (bytes : ByteArray) : Nat := bytes.foldl (fun n b => n * 256 + b.toNat) 0

/-- The time and supplies of new ids. -/
def currentMoment : IO Program.Moment := do
  let clock ← Std.Time.Timestamp.now
  let ids ← IO.getRandomBytes 16
  let uuids ← IO.getRandomBytes 16
  match Timestamp.after1970? clock.toNanosecondsSinceUnixEpoch.val.toNat with
  | some now =>
    return ⟨now, Uuid.simpleSupply (numberOf ids), Uuid.hyphenatedSupply (numberOf uuids)⟩
  | none => throw (IO.userError "the clock is out of range")

end HostRoster

/-- Runs the program. -/
def main (arguments : List String) : IO UInt32 := do
  let moment ← HostRoster.currentMoment
  let ending ← HostRoster.Program.run arguments moment
  match ending.output with
  | some text => IO.println text
  | none => pure ()
  match ending.complaint with
  | some text => IO.eprintln text
  | none => pure ()
  return ending.code.toUInt32
