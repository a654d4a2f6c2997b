/-!
# Arguments of a command

An argument list is read word by word. `--name` starts an option, whose value is joined to it by an
equals sign or is the next word; `--` ends the options; all else is a word of its own. The value of
an option is examined once the next argument or the end is reached, so an unknown option right after
an option without a value is what is complained about.
-/

namespace HostRoster.Command

/-- Why an argument list is not a command to carry out. -/
inductive UsageError where
  /-- It asks for help. -/
  | helpWanted
  /-- There are no arguments. -/
  | nothingGiven
  /-- There is no subcommand. -/
  | subcommandMissing
  /-- A word is no subcommand. -/
  | subcommandUnknown
  /-- An argument is not known. -/
  | argumentUnknown
  /-- An option has no value. -/
  | valueMissing
  /-- A flag has a value. -/
  | valueUnwanted
  /-- A value does not have the form that it must have. -/
  | valueMalformed
  /-- An argument is given twice. -/
  | givenTwice
  /-- An argument that must be given is not. -/
  | argumentMissing
  deriving DecidableEq, Repr

/-- How an argument is used. -/
inductive Role where
  /-- It is given or not. -/
  | flag
  /-- It asks for help. -/
  | help
  /-- It has a value, and is given at most once. -/
  | single
  /-- It has a value, and may be given several times. -/
  | repeated
  deriving DecidableEq, Repr

/-- An argument that a command knows. -/
structure Argument where
  /-- The name. -/
  name : String
  /-- How it is used. -/
  role : Role
  /-- Why a value does not do. -/
  complaint? : String → Option UsageError

/-- What a command knows. -/
structure Grammar where
  /-- The options. -/
  options : List Argument
  /-- The argument without a name. -/
  word : Option Argument
  /-- The subcommands. -/
  subcommands : List String

/-- An argument as it is written. -/
inductive Token where
  /-- The end of the options. -/
  | separator
  /-- An option with its name, and with its value if it is joined to it. -/
  | option (name : String) (joined : Option String)
  /-- Letters after a single hyphen. -/
  | letters (first : Char)
  /-- Anything else. -/
  | word
  deriving DecidableEq, Repr

/-- Splits the characters of an option at its first equals sign. -/
def splitOption (cs : List Char) : Token :=
  let value := cs.dropWhile (· != '=')
  .option (String.ofList (cs.takeWhile (· != '=')))
    (if value.isEmpty then none else some (String.ofList (value.drop 1)))

/-- An argument as it is written. -/
def Token.ofText (a : String) : Token :=
  match a.toList with
  | ['-', '-'] => .separator
  | '-' :: '-' :: cs => splitOption cs
  | '-' :: c :: _ => .letters c
  | _ => .word

/-- What has been read of an argument list. -/
structure Scan where
  /-- The arguments with their values, in order; a flag has an empty value. -/
  given : List (String × String)
  /-- The last argument, if its value is not examined or not even read yet. -/
  pending : Option (Argument × Option String)

namespace Scan

/-- Nothing read. -/
def start : Scan := ⟨[], none⟩

/-- Whether the last argument is an option without a value. -/
def awaitsValue (s : Scan) : Bool := s.pending.any fun p => p.2.isNone

/-- Whether an argument was given. -/
def has (s : Scan) (name : String) : Bool := s.given.any (·.1 == name)

/-- The value of an argument that is given at most once. -/
def value? (s : Scan) (name : String) : Option String := s.given.lookup name

/-- The values of an argument, in order. -/
def values (s : Scan) (name : String) : List String :=
  (s.given.filter (·.1 == name)).map Prod.snd

/-- The value of an argument that must be given. -/
def required (s : Scan) (name : String) : Except UsageError String :=
  match s.value? name with
  | some v => .ok v
  | none => .error .argumentMissing

/-- Takes in an argument with its value. -/
def accept (s : Scan) (a : Argument) (value : String) : Except UsageError Scan :=
  if a.role ≠ .repeated && s.has a.name then .error .givenTwice
  else
    match a.complaint? value with
    | some e => .error e
    | none => .ok { s with given := s.given ++ [(a.name, value)] }

/-- Examines the last argument. -/
def settle (s : Scan) : Except UsageError Scan :=
  match s.pending with
  | none => .ok s
  | some (_, none) => .error .valueMissing
  | some (a, some v) => { s with pending := none }.accept a v

/-- Takes in an option. -/
def option (s : Scan) (a : Argument) (joined : Option String) : Except UsageError Scan :=
  match a.role, joined with
  | .flag, some _ => .error .valueUnwanted
  | .help, some _ => .error .valueUnwanted
  | .flag, none => do (← s.settle).accept a ""
  | .help, none => do
    let _ ← s.settle
    .error .helpWanted
  | _, some v => do (← s.settle).accept a v
  | _, none => do .ok { (← s.settle) with pending := some (a, none) }

/-- Takes in a word as the value of the last argument. -/
def fill (s : Scan) (value : String) : Scan :=
  { s with pending := s.pending.map fun p => (p.1, some value) }

end Scan

namespace Grammar

/-- The option with a name. -/
def option? (g : Grammar) (name : String) : Option Argument := g.options.find? (·.name == name)

/-- The complaint about a word that the command has no place for. -/
def strayWord (g : Grammar) (afterSeparator : Bool) (a : String) : UsageError :=
  if g.subcommands.isEmpty || (afterSeparator && g.subcommands.contains a) then .argumentUnknown
  else .subcommandUnknown

/-- Takes in a word by itself, if there is a place for it left. -/
def place (g : Grammar) (s : Scan) (place : Option Argument) (afterSeparator : Bool) (a : String) :
    Except UsageError Scan :=
  match place with
  | some w => do .ok { (← s.settle) with pending := some (w, some a) }
  | none => .error (g.strayWord afterSeparator a)

/-- Reads the words after the end of the options. -/
def scanWords (g : Grammar) (s : Scan) (left : Option Argument) :
    List String → Except UsageError Scan
  | [] => .ok s
  | a :: rest => do g.scanWords (← g.place s left true a) none rest

/-- Reads arguments up to a subcommand, which is returned with the arguments after it. -/
def scan (g : Grammar) (s : Scan) (left : Option Argument) :
    List String → Except UsageError (Scan × Option (String × List String))
  | [] => .ok (s, none)
  | a :: rest =>
    if !s.awaitsValue && g.subcommands.contains a then .ok (s, some (a, rest))
    else
      match Token.ofText a with
      | .separator => (g.scanWords s left rest).map fun s => (s, none)
      | .letters first =>
        if first = 'h' then do
          let _ ← s.settle
          .error .helpWanted
        else .error .argumentUnknown
      | .option name joined =>
        match g.option? name with
        | none => .error .argumentUnknown
        | some o => do g.scan (← s.option o joined) left rest
      | .word =>
        if s.awaitsValue then g.scan (s.fill a) left rest
        else do g.scan (← g.place s left false a) none rest

end Grammar

end HostRoster.Command
