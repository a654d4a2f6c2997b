import HostRoster.Json.Value

/-!
# Writing JSON

Two layouts: compact without blanks, and indented with two spaces for each level, where an array or
object without members stays on its line. Quotes, backslashes and control characters below the space
are escaped, all other characters stand for themselves.
-/

namespace HostRoster.Json

/-- A hexadecimal digit, lower case. -/
def hexDigit (n : Nat) : Char := Nat.digitChar (n % 16)

/-- One character of a text inside quotes. -/
def escapeChar : Char → List Char
  | '"' => ['\\', '"']
  | '\\' => ['\\', '\\']
  | '\n' => ['\\', 'n']
  | '\r' => ['\\', 'r']
  | '\t' => ['\\', 't']
  | '\x08' => ['\\', 'b']
  | '\x0c' => ['\\', 'f']
  | c =>
    if c.toNat < 0x20 then ['\\', 'u', '0', '0', hexDigit (c.toNat / 16), hexDigit c.toNat]
    else [c]

/-- A text in quotes. -/
def textChars (s : String) : List Char := '"' :: s.toList.flatMap escapeChar ++ ['"']

/-- The literal of a truth value. -/
def boolChars (b : Bool) : List Char :=
  if b then ['t', 'r', 'u', 'e'] else ['f', 'a', 'l', 's', 'e']

/-- The literal `null`. -/
def nullChars : List Char := ['n', 'u', 'l', 'l']

/-- Pieces with a separator between neighbours. -/
def joinChars (separator : List Char) : List (List Char) → List Char
  | [] => []
  | [p] => p
  | p :: rest => p ++ separator ++ joinChars separator rest

mutual

/-- A value without blanks. -/
def Value.compact : Value → List Char
  | .null => nullChars
  | .bool b => boolChars b
  | .number n => n.chars
  | .string s => textChars s
  | .array items => '[' :: joinChars [','] (compactItems items) ++ [']']
  | .object members => '\x7b' :: joinChars [','] (compactMembers members) ++ ['\x7d']

/-- The items of an array without blanks. -/
def compactItems : List Value → List (List Char)
  | [] => []
  | v :: rest => v.compact :: compactItems rest

/-- The members of an object without blanks. -/
def compactMembers : List (String × Value) → List (List Char)
  | [] => []
  | (name, v) :: rest => (textChars name ++ ':' :: v.compact) :: compactMembers rest

end

/-- A value on one line. -/
def Value.compactText (v : Value) : String := String.ofList v.compact

/-- A new line at a level of indentation. -/
def newLine (level : Nat) : List Char := '\n' :: List.replicate (2 * level) ' '

/-- Pieces on lines of their own between two brackets. -/
def bracketed (level : Nat) (opening closing : Char) (pieces : List (List Char)) : List Char :=
  match pieces with
  | [] => [opening, closing]
  | pieces =>
    opening :: newLine (level + 1) ++ joinChars (',' :: newLine (level + 1)) pieces ++
      newLine level ++ [closing]

mutual

/-- A value indented from a level on. -/
def Value.indented (level : Nat) : Value → List Char
  | .null => nullChars
  | .bool b => boolChars b
  | .number n => n.chars
  | .string s => textChars s
  | .array items => bracketed level '[' ']' (indentedItems (level + 1) items)
  | .object members => bracketed level '\x7b' '\x7d' (indentedMembers (level + 1) members)

/-- The items of an array, indented. -/
def indentedItems (level : Nat) : List Value → List (List Char)
  | [] => []
  | v :: rest => v.indented level :: indentedItems level rest

/-- The members of an object, indented. -/
def indentedMembers (level : Nat) : List (String × Value) → List (List Char)
  | [] => []
  | (name, v) :: rest =>
    (textChars name ++ ':' :: ' ' :: v.indented level) :: indentedMembers level rest

end

/-- A value on several lines. -/
def Value.indentedText (v : Value) : String := String.ofList (v.indented 0)

end HostRoster.Json
