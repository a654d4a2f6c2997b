import HostRoster.Json.Writer
import HostRoster.Program.Basic

/-!
# What the program writes

The result of a task is written as indented JSON. Failures are written with their causes, and a
command line that is no task with a short text on how the program is used.
-/

namespace HostRoster

open HostRoster.Command HostRoster.Json

/-- How the program is used. -/
def usageText : String :=
  "Usage: [--state FILE] update --owner OWNER REPORT [--create-missing] [--reporter ID] [WHO]\n" ++
  "       [--state FILE] heartbeat --owner OWNER --reporter ID [WHO]\n" ++
  "where WHO is [--user NAME] [--admin] [--grant OWNER=read|update|create]..."

/-- The complaint about a command line. -/
def Command.UsageError.message : UsageError → String
  | .helpWanted => "help was asked for"
  | .nothingGiven => "there are no arguments"
  | .subcommandMissing => "there is no subcommand"
  | .subcommandUnknown => "there is no such subcommand"
  | .argumentUnknown => "an argument is not known"
  | .valueMissing => "a value is missing"
  | .valueUnwanted => "a flag has no value"
  | .valueMalformed => "a value does not have the right form"
  | .givenTwice => "an argument is given twice"
  | .argumentMissing => "an argument is missing"

namespace Program

/-- What a call writes to its output. -/
def Ending.output : Ending → Option String
  | .done result => some result.indentedText
  | .failed _ => none
  | .usage .helpWanted => some usageText
  | .usage _ => none
  | .stopped => none

/-- What a call complains about. -/
def Ending.complaint : Ending → Option String
  | .done _ => none
  | .failed causes => some ("Error: " ++ String.intercalate "\nCaused by: " causes)
  | .usage .helpWanted => none
  | .usage e => some ("error: " ++ e.message ++ "\n\n" ++ usageText)
  | .stopped => some "error: a variable of the environment file has a zero character in its value"

end Program

end HostRoster
