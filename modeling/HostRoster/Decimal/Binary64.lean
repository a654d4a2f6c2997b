/-!
# Double-precision magnitudes

A magnitude is a natural number times a power of two with at most 53 significant bits. `nearest`
rounds an exact quotient to the closest magnitude, a tie to the even mantissa. `ofScaled` gives the
magnitude of a decimal: its digits and the power of ten are rounded by themselves before they are
multiplied or divided, so decimals of more than fifteen digits may be off by one unit.
-/

namespace HostRoster.Decimal

/-- The magnitude `mantissa * 2 ^ exponent`. -/
structure Binary64 where
  /-- At most 53 bits. -/
  mantissa : Nat
  /-- Between -1074 and 971. -/
  exponent : Int
  deriving DecidableEq, Repr

namespace Binary64

/-- The smallest exponent. -/
def minExponent : Int := -1074

/-- The largest exponent. -/
def maxExponent : Int := 971

/-- The magnitude zero. -/
def zero : Binary64 := ⟨0, minExponent⟩

/-- Whether a magnitude is zero. -/
def isZero (b : Binary64) : Bool := b.mantissa == 0

/-- The numerator of a quotient whose value is the magnitude. -/
def numerator (b : Binary64) : Nat := b.mantissa * Nat.pow 2 b.exponent.toNat

/-- The denominator of a quotient whose value is the magnitude. -/
def denominator (b : Binary64) : Nat := Nat.pow 2 (-b.exponent).toNat

/-- The integer closest to a quotient, a tie to the even one. -/
def roundQuotient (num den : Nat) : Nat :=
  let q := num / den
  let twice := 2 * (num % den)
  if twice > den || (twice == den && q % 2 == 1) then q + 1 else q

/-- The quotient `num / den`, divided by `2 ^ e` and rounded to an integer. -/
def mantissaAt (num den : Nat) (e : Int) : Nat :=
  roundQuotient (num * Nat.pow 2 (-e).toNat) (den * Nat.pow 2 e.toNat)

/-- The exponent at which a positive quotient has a mantissa of 53 bits, or the least one. -/
def exponentFor (num den : Nat) : Int :=
  let guess : Int := (num.log2 : Int) - den.log2 - 52
  let small := num * Nat.pow 2 (-guess).toNat < den * Nat.pow 2 guess.toNat * Nat.pow 2 52
  max (if small then guess - 1 else guess) minExponent

/-- The magnitude closest to a quotient with a positive denominator; nothing if it is too large. -/
def nearest (num den : Nat) : Option Binary64 :=
  if num = 0 then some zero
  else
    let e := exponentFor num den
    let m := mantissaAt num den e
    let b : Binary64 := if m = Nat.pow 2 53 then ⟨Nat.pow 2 52, e + 1⟩ else ⟨m, e⟩
    if b.exponent > maxExponent then none else some b

/-- The magnitude of a natural number. -/
def ofNat (n : Nat) : Option Binary64 := nearest n 1

/-- The rounded product. -/
def mul (a b : Binary64) : Option Binary64 :=
  nearest (a.numerator * b.numerator) (a.denominator * b.denominator)

/-- The rounded quotient. -/
def div (a b : Binary64) : Option Binary64 :=
  nearest (a.numerator * b.denominator) (a.denominator * b.numerator)

/-- The largest power of ten that is a magnitude. -/
def maxTen : Nat := 308

/-- A magnitude divided by `10 ^ n`, in steps of at most `10 ^ 308`. -/
def shrink (steps : Nat) (b : Binary64) (n : Nat) : Option Binary64 :=
  if n ≤ maxTen then (ofNat (Nat.pow 10 n)).bind b.div
  else if b.isZero then some b
  else
    match steps with
    | 0 => some zero
    | steps + 1 =>
      ((ofNat (Nat.pow 10 maxTen)).bind b.div).bind fun c => shrink steps c (n - maxTen)

/-- The magnitude read from `digits * 10 ^ exponent`; nothing if it is too large. -/
def ofScaled (digits : Nat) (exponent : Int) : Option Binary64 :=
  (ofNat digits).bind fun b =>
    if exponent < 0 then shrink (exponent.natAbs / maxTen) b exponent.natAbs
    else if b.isZero then some b
    else if exponent.toNat ≤ maxTen then (ofNat (Nat.pow 10 exponent.toNat)).bind b.mul
    else none

end Binary64

end HostRoster.Decimal
