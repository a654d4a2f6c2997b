import HostRoster.Text.Property

/-!
# Values of an environment file

What stands after the equals sign of an assignment. Single quotes take everything literally; within
double quotes and outside of quotes a backslash escapes a quote, a dollar sign, a blank, itself or,
as `\n`, a line break, and a dollar sign refers to a variable, whose name may stand in braces.
Outside of quotes a blank ends the value, and only a comment may follow.
-/

namespace HostRoster.Environment

/-- A part of a value. -/
inductive Piece where
  /-- A character. -/
  | char (c : Char)
  /-- The value of a variable. -/
  | reference (name : String)
  deriving DecidableEq, Repr

/-- Where a value has been read to. -/
inductive Mode where
  /-- Outside of quotes. -/
  | plain
  /-- Within double quotes. -/
  | weak
  /-- Within single quotes. -/
  | strong
  /-- After a backslash, within double quotes or not. -/
  | escape (quoted : Bool)
  /-- Within the name of a variable, which is given backwards. -/
  | bare (quoted : Bool) (name : List Char)
  /-- Within the name of a variable in braces, which is given backwards. -/
  | braced (quoted : Bool) (name : List Char)
  /-- After the value. -/
  | ending
  /-- In a comment after the value. -/
  | comment
  deriving DecidableEq, Repr

/-- Whether a character may stand in a name that is not in braces. -/
def isNameChar (c : Char) : Bool := Text.alphanumeric.has c.toNat

/-- The mode that a part of a value was read in. -/
def outer (quoted : Bool) : Mode := if quoted then .weak else .plain

/-- A reference to the variable whose name is given backwards. -/
def referTo (name : List Char) : Piece := .reference (String.ofList name.reverse)

/-- The character that an escape stands for. -/
def escaped? (c : Char) : Option Char :=
  if c = 'n' then some '\n'
  else if c = '\\' || c = '\x27' || c = '"' || c = '$' || c = ' ' then some c
  else none

/-- Reads one character: the mode after it and the parts of the value that end with it. -/
def Mode.step : Mode → Char → Option (Mode × List Piece)
  | .plain, c =>
    if c = '$' then some (.bare false [], [])
    else if c = '\x27' then some (.strong, [])
    else if c = '"' then some (.weak, [])
    else if c = '\\' then some (.escape false, [])
    else if c = ' ' || c = '\t' then some (.ending, [])
    else some (.plain, [.char c])
  | .weak, c =>
    if c = '$' then some (.bare true [], [])
    else if c = '"' then some (.plain, [])
    else if c = '\\' then some (.escape true, [])
    else some (.weak, [.char c])
  | .strong, c => if c = '\x27' then some (.plain, []) else some (.strong, [.char c])
  | .escape quoted, c => (escaped? c).map fun c => (outer quoted, [.char c])
  | .bare quoted name, c =>
    if isNameChar c then some (.bare quoted (c :: name), [])
    else if c = '\x7b' && name.isEmpty then some (.braced quoted [], [])
    else if c = '$' then some (.bare quoted [], [referTo name])
    else some (outer quoted, [referTo name, .char c])
  | .braced quoted name, c =>
    if c = '\x7d' then some (outer quoted, [referTo name])
    else some (.braced quoted (c :: name), [])
  | .ending, c =>
    if c = ' ' || c = '\t' then some (.ending, [])
    else if c = '#' then some (.comment, [])
    else none
  | .comment, _ => some (.comment, [])

/-- What the end of the text adds to the value; nothing if a quote or brace is open. -/
def Mode.finish : Mode → Option (List Piece)
  | .bare false name => some [referTo name]
  | .plain | .escape false | .ending | .comment => some []
  | _ => none

/-- The parts of a value, read on in a mode. -/
def piecesFrom (m : Mode) : List Char → Option (List Piece)
  | [] => m.finish
  | c :: rest => do
    let (m, ps) ← m.step c
    let qs ← piecesFrom m rest
    some (ps ++ qs)

/-- The parts of a value. -/
def pieces (cs : List Char) : Option (List Piece) := piecesFrom .plain cs

end HostRoster.Environment
