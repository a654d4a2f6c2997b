import HostRoster.Environment.Value
import HostRoster.Text.Blank

/-!
# Environment files

A text with an assignment on each line, blank lines and comments apart. A quoted value may go over
several lines. What stands before the first fault counts, and all else does not.
-/

namespace HostRoster.Environment

/-- Where the reading of a line stands. -/
inductive LineMode where
  /-- The line may end. -/
  | complete
  /-- After a blank, where a comment may start. -/
  | blank
  /-- After a backslash. -/
  | escape
  /-- Within a quote, and whether after a backslash. -/
  | quoted (mark : Char) (escaped : Bool)
  deriving DecidableEq, Repr

/-- The mode after a character that opens a quote, escapes the next one or does neither. -/
def LineMode.afterPlain (c : Char) : LineMode :=
  if c = '\\' then .escape else if c = '"' || c = '\x27' then .quoted c false else .complete

/-- The mode after a character. -/
def LineMode.step : LineMode → Char → LineMode
  | .complete, c => if Text.isSpace c && c ≠ '\n' && c ≠ '\r' then .blank else .afterPlain c
  | .blank, c => .afterPlain c
  | .escape, _ => .complete
  | .quoted mark true, _ => .quoted mark false
  | .quoted mark false, c =>
    if c = '\\' then .quoted mark true else if c = mark then .complete else .quoted mark false

/-- Reads a line: the mode at its end, or the characters before the comment that it ends with. -/
def scanLine (m : LineMode) (done : List Char) : List Char → LineMode ⊕ List Char
  | [] => .inl m
  | c :: rest =>
    if m = .blank && c = '#' then .inr done.reverse else scanLine (m.step c) (c :: done) rest

/-- Splits characters after every line break. A line with bytes that are no text is nothing. -/
def rawLines (line : Option (List Char)) : List (Option Char) → List (Option (List Char))
  | [] => if line = some [] then [] else [line.map List.reverse]
  | some '\n' :: rest => (line.map fun l => ('\n' :: l).reverse) :: rawLines (some []) rest
  | c :: rest => rawLines (line.bind fun l => c.map (· :: l)) rest

/-- The characters without a line break at the end. -/
def dropLineBreak (cs : List Char) : List Char :=
  match cs.reverse with
  | '\n' :: '\r' :: rest => rest.reverse
  | '\n' :: rest => rest.reverse
  | _ => cs

/-- Joins lines where a quote is open at the end of one; `before` are the lines joined so far. Stops
at a line that is no text, and where the last line is not complete. -/
def joinLines (before : List Char) (m : LineMode) : List (Option (List Char)) → List (List Char)
  | [] => []
  | none :: _ => []
  | some l :: rest =>
    let line := before ++ l
    if (Text.dropLeading line).head? = some '#' then joinLines [] .complete rest
    else
      match scanLine m [] l with
      | .inr kept => (before ++ kept) :: joinLines [] .complete rest
      | .inl .complete => dropLineBreak line :: joinLines [] .complete rest
      | .inl m => joinLines line m rest

/-- An assignment to a variable. -/
structure Assignment where
  /-- The name of the variable. -/
  name : String
  /-- The parts of the value. -/
  value : List Piece
  deriving DecidableEq, Repr

/-- Whether a name may start with a character. -/
def isKeyStart (c : Char) : Bool := c.isAlpha || c = '_'

/-- Whether a name may contain a character. -/
def isKeyChar (c : Char) : Bool := c.isAlphanum || c = '_' || c = '.'

/-- Reads a name and the blanks after it. -/
def readKey? (cs : List Char) : Option (List Char × List Char) :=
  if cs.head?.any isKeyStart then
    some (cs.takeWhile isKeyChar, Text.dropLeading (cs.dropWhile isKeyChar))
  else none

/-- Reads a name, the word `export` before it, and the equals sign after it. -/
def readHead? (cs : List Char) : Option (List Char × List Char) := do
  let (key, rest) ← readKey? cs
  match rest with
  | '=' :: rest => some (key, rest)
  | rest =>
    if key = ['e', 'x', 'p', 'o', 'r', 't'] then
      match ← readKey? rest with
      | (key, '=' :: rest) => some (key, rest)
      | _ => none
    else none

/-- Whether nothing counts from here on. -/
def isVoid (cs : List Char) : Bool := cs.head?.all (· = '#')

/-- Reads a line that is not blank and no comment. -/
def readAssignment? (cs : List Char) : Option Assignment := do
  let (key, rest) ← readHead? cs
  let rest := Text.dropLeading rest
  let value ← if isVoid rest then some [] else pieces rest
  some ⟨String.ofList key, value⟩

/-- The assignments of lines before the first fault. -/
def assignments : List (List Char) → List Assignment
  | [] => []
  | l :: rest =>
    let l := Text.trimChars l
    if isVoid l then assignments rest
    else
      match readAssignment? l with
      | some a => a :: assignments rest
      | none => []

/-- The characters after a byte order mark. -/
def dropMark : List (Option Char) → List (Option Char)
  | some '\uFEFF' :: rest => rest
  | cs => cs

/-- The assignments of an environment file, given as characters with nothing for bytes that are no
text. -/
def readFile (cs : List (Option Char)) : List Assignment :=
  assignments (joinLines [] .complete (rawLines (some []) (dropMark cs)))

end HostRoster.Environment
