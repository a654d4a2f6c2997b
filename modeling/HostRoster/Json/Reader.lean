import HostRoster.Json.Draft
import HostRoster.Text.Start

/-!
# Reading JSON

Reading turns characters into a draft. Every step returns what it read and the characters after it,
or no characters where the reading stopped. The grammar is that of RFC 8259: nothing but blanks may
stand around a value, numbers have no leading zeros, and control characters are not allowed in
texts.

Bytes are read as characters through a stand-in for those that are no part of a UTF-8 character; a
text that contains the stand-in has malformed content.
-/

namespace HostRoster.Json

open HostRoster.Decimal

/-- Whether a character may stand between tokens. -/
def isBlank (c : Char) : Bool := c == ' ' || c == '\n' || c == '\t' || c == '\r'

/-- The characters from the first token on. -/
def skipBlanks (cs : List Char) : List Char := cs.dropWhile isBlank

/-- The parts of a written number. -/
structure Numeral where
  /-- Whether it starts with a minus sign. -/
  negative : Bool
  /-- The digits before the point. -/
  whole : List Char
  /-- The digits after the point. -/
  fraction : Option (List Char)
  /-- Whether the exponent has a minus sign, and its digits. -/
  exponent : Option (Bool × List Char)
  deriving DecidableEq, Repr

/-- The greatest unsigned word of 64 bits. -/
def maxWord : Nat := 18446744073709551615

/-- Appends digits to a number while it fits a word of 64 bits; returns the number and the digits
left over. -/
def gather (n : Nat) : List Char → Nat × List Char
  | [] => (n, [])
  | c :: rest =>
    let m := n * 10 + (c.toNat - '0'.toNat)
    if m ≤ maxWord then gather m rest else (n, c :: rest)

/-- The number of an exponent. -/
def exponentValue : Option (Bool × List Char) → Int
  | none => 0
  | some (negative, ds) =>
    let n : Nat := ds.foldl (fun n c => n * 10 + (c.toNat - '0'.toNat)) 0
    if negative then -n else n

namespace Numeral

/-- The digits that are kept and the power of ten of the last of them. Digits are kept as long as
they fit a word; digits before the point that do not fit still count as places. -/
def scaled (t : Numeral) : Nat × Int :=
  let (n, left) := gather 0 t.whole
  let (m, places) :=
    match t.fraction with
    | none => (n, (left.length : Int))
    | some ds =>
      let (m, rest) := gather n ds
      (m, (left.length : Int) - (ds.length - rest.length : Nat))
  (m, places + exponentValue t.exponent)

/-- The integer that a numeral without fraction and exponent denotes, if it fits a word. A negative
zero is no integer. -/
def integer? (t : Numeral) : Option Int :=
  match t.fraction, t.exponent, gather 0 t.whole with
  | none, none, (n, []) =>
    if !t.negative then some n else if 0 < n && n ≤ 9223372036854775808 then some (-n) else none
  | _, _, _ => none

/-- The number that a numeral denotes; nothing if it is too large. -/
def number? (t : Numeral) : Option Number :=
  match t.integer? with
  | some i => some (.integer i)
  | none => (Binary64.ofScaled t.scaled.1 t.scaled.2).map (.float t.negative)

end Numeral

/-- Splits off the digits at the start. -/
def spanDigits (cs : List Char) : List Char × List Char := cs.span Char.isDigit

/-- Reads the digits before the point: a zero by itself, or digits that start with another. -/
def readWhole? (cs : List Char) : Option (List Char × List Char) :=
  match spanDigits cs with
  | ([], _) => none
  | (ds, rest) => if ds.head? = some '0' && ds.length ≠ 1 then none else some (ds, rest)

/-- Reads a point and at least one digit, if there is a point. -/
def readFraction? (cs : List Char) : Option (Option (List Char) × List Char) :=
  match cs with
  | '.' :: cs =>
    match spanDigits cs with
    | ([], _) => none
    | (ds, rest) => some (some ds, rest)
  | cs => some (none, cs)

/-- Reads the digits of an exponent after its sign. -/
def readExponentDigits? (negative : Bool) (cs : List Char) :
    Option (Option (Bool × List Char) × List Char) :=
  match spanDigits cs with
  | ([], _) => none
  | (ds, rest) => some (some (negative, ds), rest)

/-- Reads an exponent, if there is one. -/
def readExponent? (cs : List Char) : Option (Option (Bool × List Char) × List Char) :=
  match cs with
  | c :: cs =>
    if c = 'e' || c = 'E' then
      match cs with
      | '+' :: cs => readExponentDigits? false cs
      | '-' :: cs => readExponentDigits? true cs
      | cs => readExponentDigits? false cs
    else some (none, c :: cs)
  | [] => some (none, [])

/-- Reads a number after its sign. -/
def readNumeral? (negative : Bool) (cs : List Char) : Option (Numeral × List Char) := do
  let (whole, cs) ← readWhole? cs
  let (fraction, cs) ← readFraction? cs
  let (exponent, cs) ← readExponent? cs
  some (⟨negative, whole, fraction, exponent⟩, cs)

/-- The value of a hexadecimal digit. -/
def hexValue? (c : Char) : Option Nat :=
  let n := c.toNat
  if 48 ≤ n && n ≤ 57 then some (n - 48)
  else if 97 ≤ n && n ≤ 102 then some (n - 87)
  else if 65 ≤ n && n ≤ 70 then some (n - 55)
  else none

/-- Reads four hexadecimal digits. -/
def readHex? : List Char → Option (Nat × List Char)
  | a :: b :: c :: d :: rest => do
    let a ← hexValue? a
    let b ← hexValue? b
    let c ← hexValue? c
    let d ← hexValue? d
    some (((a * 16 + b) * 16 + c) * 16 + d, rest)
  | _ => none

/-- The character that an escape of one letter stands for. -/
def letterEscape? : Char → Option Char
  | '"' => some '"'
  | '\\' => some '\\'
  | '/' => some '/'
  | 'b' => some '\x08'
  | 'f' => some '\x0c'
  | 'n' => some '\n'
  | 'r' => some '\r'
  | 't' => some '\t'
  | _ => none

/-- Whether a number is the first half of a pair of surrogates. -/
def isHighSurrogate (n : Nat) : Bool := 0xD800 ≤ n && n < 0xDC00

/-- Whether a number is the second half of a pair of surrogates. -/
def isLowSurrogate (n : Nat) : Bool := 0xDC00 ≤ n && n < 0xE000

/-- What stands after a first surrogate: the second one, or nothing that fits. -/
def readLowSurrogate? : List Char → Option (Nat × List Char)
  | '\\' :: 'u' :: cs =>
    match readHex? cs with
    | some (n, rest) => if isLowSurrogate n then some (n, rest) else none
    | none => none
  | _ => none

/-- The character of an escape with four digits, which may need a second escape; no character for a
surrogate alone. -/
def readUnicodeEscape? (cs : List Char) : Option (Option Char × List Char) := do
  let (n, rest) ← readHex? cs
  if isHighSurrogate n then
    match readLowSurrogate? rest with
    | some (m, rest) =>
      some (some (Char.ofNat (0x10000 + (n - 0xD800) * 0x400 + (m - 0xDC00))), rest)
    | none => some (none, rest)
  else if isLowSurrogate n then some (none, rest)
  else some (some (Char.ofNat n), rest)

/-- One character or escape of a text, after its opening quote and before its closing one. -/
def readChar? (standIn : Option Char) : List Char → Option (Option Char × List Char)
  | [] => none
  | '\\' :: 'u' :: cs => readUnicodeEscape? cs
  | '\\' :: c :: cs => (letterEscape? c).map fun c => (some c, cs)
  | c :: cs =>
    if c.toNat < 0x20 || c = '\\' then none
    else if standIn = some c then some (none, cs)
    else some (some c, cs)

/-- Reads a text after its opening quote. The text so far is kept backwards; it is nothing once its
content is malformed. The fuel bounds the number of steps; one more than the number of characters is
enough. -/
def readText? (standIn : Option Char) (fuel : Nat) (sofar : Option (List Char))
    (cs : List Char) : Option (Option String × List Char) :=
  match fuel with
  | 0 => none
  | fuel + 1 =>
    match cs with
    | '"' :: rest => some (sofar.map fun s => String.ofList s.reverse, rest)
    | cs =>
      match readChar? standIn cs with
      | none => none
      | some (c, rest) =>
        readText? standIn fuel (sofar.bind fun s => c.map fun c => c :: s) rest

/-- A draft with the characters after it; no characters where the reading stopped. -/
abbrev Partial := Draft × Option (List Char)

/-- The draft at which the reading stops. -/
def stopped : Partial := (.broken, none)

/-- A literal, if the characters are the rest of it. -/
def readLiteral (expected : List Char) (d : Draft) (cs : List Char) : Partial :=
  match Text.after? expected cs with
  | some rest => (d, some rest)
  | none => stopped

/-- A number after its sign. -/
def readNumber (negative : Bool) (cs : List Char) : Partial :=
  match readNumeral? negative cs with
  | some (t, rest) => (.number t.number?, some rest)
  | none => stopped

/-- A text after its opening quote. -/
def readString (standIn : Option Char) (fuel : Nat) (cs : List Char) : Partial :=
  match readText? standIn fuel (some []) cs with
  | some (s, rest) => (.string s, some rest)
  | none => stopped

mutual

/-- Reads a value. The fuel bounds the number of steps; two more than twice the number of characters
are enough. -/
def readValue (standIn : Option Char) (fuel : Nat) (cs : List Char) : Partial :=
  match fuel with
  | 0 => stopped
  | fuel + 1 =>
    match skipBlanks cs with
    | [] => stopped
    | c :: rest =>
      match c with
      | 'n' => readLiteral ['u', 'l', 'l'] .null rest
      | 't' => readLiteral ['r', 'u', 'e'] (.bool true) rest
      | 'f' => readLiteral ['a', 'l', 's', 'e'] (.bool false) rest
      | '"' => readString standIn fuel rest
      | '-' => readNumber true rest
      | '[' =>
        match skipBlanks rest with
        | ']' :: rest => (.array [] true, some rest)
        | rest => readItems standIn fuel [] rest
      | '\x7b' =>
        match skipBlanks rest with
        | '\x7d' :: rest => (.object [] true, some rest)
        | rest => readMembers standIn fuel [] rest
      | c => if c.isDigit then readNumber false (c :: rest) else stopped

/-- Reads the items of an array from the start of one; the items before it are kept backwards. -/
def readItems (standIn : Option Char) (fuel : Nat) (done : List Draft) (cs : List Char) : Partial :=
  match fuel with
  | 0 => (.array done.reverse false, none)
  | fuel + 1 =>
    match readValue standIn fuel cs with
    | (d, none) => (.array (d :: done).reverse false, none)
    | (d, some rest) =>
      match skipBlanks rest with
      | ']' :: rest => (.array (d :: done).reverse true, some rest)
      | ',' :: rest => readItems standIn fuel (d :: done) rest
      | _ => (.array (d :: done).reverse false, none)

/-- Reads the members of an object from the start of one; the members before it are kept
backwards. -/
def readMembers (standIn : Option Char) (fuel : Nat) (done : List (Option String × Draft))
    (cs : List Char) : Partial :=
  match fuel with
  | 0 => (.object done.reverse false, none)
  | fuel + 1 =>
    match skipBlanks cs with
    | '"' :: rest =>
      match readText? standIn fuel (some []) rest with
      | none => (.object done.reverse false, none)
      | some (name, rest) =>
        match skipBlanks rest with
        | ':' :: rest =>
          match readValue standIn fuel rest with
          | (d, none) => (.object ((name, d) :: done).reverse false, none)
          | (d, some rest) =>
            match skipBlanks rest with
            | '\x7d' :: rest => (.object ((name, d) :: done).reverse true, some rest)
            | ',' :: rest => readMembers standIn fuel ((name, d) :: done) rest
            | _ => (.object ((name, d) :: done).reverse false, none)
        | _ => (.object ((name, .broken) :: done).reverse false, none)
    | _ => (.object done.reverse false, none)

end

/-- Reads a whole text, given as characters with a stand-in for bytes that are none. -/
def readChars (standIn : Option Char) (cs : List Char) : Document :=
  match readValue standIn (2 * cs.length + 2) cs with
  | (d, none) => ⟨d, false⟩
  | (d, some rest) => ⟨d, (skipBlanks rest).isEmpty⟩

/-- Reads a whole text. -/
def read (s : String) : Document := readChars none s.toList

/-- The value that a text denotes, if it is a JSON text of limited depth. -/
def parse? (s : String) : Option Value := (read s).value?

end HostRoster.Json
