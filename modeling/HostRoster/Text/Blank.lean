/-!
# Blank text

White space is the Unicode property `White_Space`: twenty-five characters, among them the no-break
and ideographic spaces but neither the zero-width ones nor the information separators. Trimming and
blankness are defined on lists of characters and lifted to strings.
-/

namespace HostRoster.Text

/-- Whether a character has the property `White_Space`. -/
def isSpace (c : Char) : Bool :=
  let n := c.toNat
  (0x9 ≤ n && n ≤ 0xD) || n == 0x20 || n == 0x85 || n == 0xA0 || n == 0x1680 ||
    (0x2000 ≤ n && n ≤ 0x200A) || n == 0x2028 || n == 0x2029 || n == 0x202F || n == 0x205F ||
    n == 0x3000

/-- The characters without leading white space. -/
def dropLeading (cs : List Char) : List Char := cs.dropWhile isSpace

/-- The characters without trailing white space. -/
def dropTrailing (cs : List Char) : List Char := (cs.reverse.dropWhile isSpace).reverse

/-- The characters without white space at either end. -/
def trimChars (cs : List Char) : List Char := dropTrailing (dropLeading cs)

/-- A text without white space at either end. -/
def trim (s : String) : String := String.ofList (trimChars s.toList)

/-- Whether a text is empty or white space throughout. -/
def isBlank (s : String) : Bool := s.toList.all isSpace

/-- A text that is not blank, or nothing. -/
def nonBlank? (s : String) : Option String := if isBlank s then none else some s

end HostRoster.Text
