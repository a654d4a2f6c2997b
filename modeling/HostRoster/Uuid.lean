import HostRoster.Supply

/-!
# Random uuids

Uuids of version 4: 122 free bits and 6 fixed ones. They are written in lower case, in groups with
hyphens or in one piece.
-/

namespace HostRoster.Uuid

/-- The last `width` hexadecimal digits of a number. -/
def hex (width n : Nat) : List Char :=
  match width with
  | 0 => []
  | width + 1 => hex width (n / 16) ++ [Nat.digitChar (n % 16)]

/-- The five groups of the uuid with the given free bits. -/
def groups (bits : Nat) : List (List Char) :=
  [hex 8 (bits >>> 90), hex 4 (bits >>> 74), '4' :: hex 3 (bits >>> 62),
    hex 4 (0x8000 + (bits >>> 48) % 0x4000), hex 12 bits]

/-- The uuid with hyphens. -/
def hyphenated (bits : Nat) : String := String.ofList (['-'].intercalate (groups bits))

/-- The uuid in one piece. -/
def simple (bits : Nat) : String := String.ofList (groups bits).flatten

/-- The number of words of 64 bits. -/
def wordSize : Nat := 18446744073709551616

/-- Spreads a number over 64 bits, different numbers differently. -/
def scramble (n : Nat) : Nat :=
  let z := (n + 0x9E3779B97F4A7C15) % wordSize
  let z := (Nat.xor z (z >>> 30) * 0xBF58476D1CE4E5B9) % wordSize
  let z := (Nat.xor z (z >>> 27) * 0x94D049BB133111EB) % wordSize
  Nat.xor z (z >>> 31)

/-- Free bits for the number `n` of a sequence that a seed of 128 bits starts. -/
def bitsAt (seed n : Nat) : Nat :=
  scramble (seed + 2 * n) * wordSize + scramble ((seed >>> 64) + 2 * n + 1)

/-- An endless sequence of uuids in one piece. -/
def simpleSupply (seed : Nat) : Supply := ⟨fun n => simple (bitsAt seed n), 0⟩

/-- An endless sequence of uuids with hyphens. -/
def hyphenatedSupply (seed : Nat) : Supply := ⟨fun n => hyphenated (bitsAt seed n), 0⟩

end HostRoster.Uuid
