import HostRoster.Decimal.Shortest

/-!
# Decimal notation

How a shortest decimal is written: positionally, with at least one digit on either side of the
point, while the exponent of its first digit is between -5 and 15, and otherwise with an exponent
that always has a sign.
-/

namespace HostRoster.Decimal

/-- Where positional notation ends. -/
structure Layout where
  /-- The least exponent of a first digit that is written positionally. -/
  least : Int
  /-- The greatest one. -/
  greatest : Int
  deriving DecidableEq, Repr

/-- The notation of numbers in JSON texts. -/
def Layout.json : Layout := ⟨-5, 15⟩

/-- The digits of a number in base ten. -/
def digitChars (n : Nat) : List Char := Nat.toDigits 10 n

/-- A decimal in positional notation. -/
def Scientific.positional (s : Scientific) : List Char :=
  let ds := digitChars s.digits
  if 0 ≤ s.exponent then ds ++ List.replicate s.exponent.toNat '0' ++ ['.', '0']
  else
    let places := (-s.exponent).toNat
    let padded := List.replicate (places + 1 - ds.length) '0' ++ ds
    padded.take (padded.length - places) ++ '.' :: padded.drop (padded.length - places)

/-- A decimal with an exponent. -/
def Scientific.exponential (s : Scientific) : List Char :=
  let ds := digitChars s.digits
  let e := s.exponent + (ds.length - 1 : Nat)
  let mantissa :=
    match ds with
    | [] => []
    | [d] => [d]
    | d :: rest => d :: '.' :: rest
  mantissa ++ 'e' :: (if e < 0 then '-' else '+') :: digitChars e.natAbs

/-- A decimal in the notation that the layout chooses. -/
def Layout.write (l : Layout) (s : Scientific) : List Char :=
  let first := s.exponent + ((digitChars s.digits).length - 1 : Nat)
  if l.least ≤ first && first ≤ l.greatest then s.positional else s.exponential

/-- A magnitude as its shortest decimal. -/
def Layout.writeBinary (l : Layout) (b : Binary64) : List Char := l.write b.shortest

end HostRoster.Decimal
