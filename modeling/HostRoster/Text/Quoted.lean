import HostRoster.Text.Property

/-!
# Quoted text

A text between double quotes, with a backslash before quotes and backslashes, letters for the usual
controls, and `\u{…}` with hexadecimal digits for every other character that does not print or that
joins the character before it. Letters without a shape do not print, and sound marks of half width
stand in a cell of their own.
-/

namespace HostRoster.Text

/-- The fillers of Hangul syllables, letters without a shape. -/
def fillers : CodeRanges := [(0x115F, 0x1160), (0x3164, 0x3164), (0xFFA0, 0xFFA0)]

/-- The sound marks of half width, which extend a grapheme but take a cell. -/
def soundMarks : CodeRanges := [(0xFF9E, 0xFF9F)]

/-- Whether a character can stand by itself in a quoted text. -/
def isPlain (c : Char) : Bool :=
  let n := c.toNat
  !unprintable.has n && !fillers.has n && (!graphemeExtend.has n || soundMarks.has n)

/-- The hexadecimal digits of a number, lower case, without leading zeros. -/
def hexDigits (n : Nat) : List Char := Nat.toDigits 16 n

/-- One character as it is written between the quotes. -/
def quoteChar : Char → List Char
  | '\x00' => ['\\', '0']
  | '\t' => ['\\', 't']
  | '\r' => ['\\', 'r']
  | '\n' => ['\\', 'n']
  | '\\' => ['\\', '\\']
  | '"' => ['\\', '"']
  | c => if isPlain c then [c] else ['\\', 'u', '\x7b'] ++ hexDigits c.toNat ++ ['\x7d']

/-- The text between double quotes. -/
def quoted (s : String) : String :=
  String.ofList ('"' :: s.toList.flatMap quoteChar ++ ['"'])

end HostRoster.Text
