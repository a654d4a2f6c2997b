import HostRoster.Text.Blank
import HostRoster.Text.LetterCase
import HostRoster.Text.Property

/-!
# Lower case

The full lower-case mapping of Unicode. All letters map by themselves except the capital sigma,
which becomes a final sigma at the end of a word. A word ends at a sigma when, punctuation and marks
inside words skipped, a letter precedes it and none follows it.
-/

namespace HostRoster.Text

/-- Whether a character is a letter that has a case. -/
def isCased (c : Char) : Bool := cased.has c.toNat

/-- Whether a character is looked through when the neighbours of a sigma are examined. -/
def isCaseIgnorable (c : Char) : Bool := caseIgnorable.has c.toNat

/-- The lower-case form of a character other than a capital sigma. -/
def lowerChar (c : Char) : List Char :=
  if c.toNat < 0x80 then [c.toLower]
  else if c = '\u0130' then ['i', '\u0307']
  else [Char.ofNat (lowerCode c.toNat)]

/-- Whether the first character that is not looked through is a letter with a case. -/
def opensWithCased (cs : List Char) : Bool :=
  match cs.dropWhile isCaseIgnorable with
  | c :: _ => isCased c
  | [] => false

/-- The lower-case form of the rest of a text; the characters before it are given backwards. -/
def lowerFrom (before : List Char) : List Char → List Char
  | [] => []
  | c :: rest =>
    (if c = 'Σ' then [if opensWithCased before && !opensWithCased rest then 'ς' else 'σ']
     else lowerChar c) ++
      lowerFrom (c :: before) rest

/-- The lower-case form of a list of characters. -/
def lowerChars (cs : List Char) : List Char := lowerFrom [] cs

/-- The lower-case form of a text. -/
def lower (s : String) : String := String.ofList (lowerChars s.toList)

/-- Whether two texts are equal once both are in lower case. -/
def sameLetters (s t : String) : Bool := lower s == lower t

/-- The text with the letters A to Z, and only those, in lower case. -/
def lowerAscii (s : String) : String := s.map Char.toLower

end HostRoster.Text
