import HostRoster.Decimal.Binary64

/-!
# Shortest decimals

The decimal with the fewest digits that reads back as a given magnitude; of several with that many
digits, the closest. A magnitude owns the numbers between the midpoints to its neighbours, and the
midpoints themselves when its mantissa is even. On the grid of decimals with a given number of
digits only the two next to the magnitude need to be looked at.
-/

namespace HostRoster.Decimal

/-- The decimal `digits * 10 ^ exponent`. -/
structure Scientific where
  /-- The significant digits as a number. -/
  digits : Nat
  /-- The power of ten of the last digit. -/
  exponent : Int
  deriving DecidableEq, Repr

namespace Scientific

/-- Whether the decimal times `den` is at most `num`, for a quotient `num / den`. -/
def le (s : Scientific) (num den : Nat) : Bool :=
  s.digits * Nat.pow 10 s.exponent.toNat * den ≤ num * Nat.pow 10 (-s.exponent).toNat

/-- The same for "less than". -/
def lt (s : Scientific) (num den : Nat) : Bool :=
  s.digits * Nat.pow 10 s.exponent.toNat * den < num * Nat.pow 10 (-s.exponent).toNat

/-- The decimal without trailing zeros among at most `steps` last digits. -/
def stripZeros (steps : Nat) (s : Scientific) : Scientific :=
  match steps with
  | 0 => s
  | steps + 1 =>
    if s.digits % 10 = 0 then stripZeros steps ⟨s.digits / 10, s.exponent + 1⟩ else s

end Scientific

namespace Binary64

/-- Whether the next smaller magnitude is closer than the next larger one. -/
def atPowerOfTwo (b : Binary64) : Bool :=
  b.mantissa == Nat.pow 2 52 && b.exponent > minExponent

/-- Four times the mantissa of the lower midpoint. -/
def lowQuarters (b : Binary64) : Nat :=
  if b.atPowerOfTwo then 4 * b.mantissa - 1 else 4 * b.mantissa - 2

/-- Four times the mantissa of the upper midpoint. -/
def highQuarters (b : Binary64) : Nat := 4 * b.mantissa + 2

/-- The numerator of `quarters * 2 ^ exponent / 4`. -/
def quarterNumerator (b : Binary64) (quarters : Nat) : Nat := quarters * Nat.pow 2 b.exponent.toNat

/-- The denominator of `quarters * 2 ^ exponent / 4`. -/
def quarterDenominator (b : Binary64) : Nat := 4 * b.denominator

/-- Whether a decimal reads back as the magnitude. -/
def owns (b : Binary64) (s : Scientific) : Bool :=
  let low := b.quarterNumerator b.lowQuarters
  let high := b.quarterNumerator b.highQuarters
  let den := b.quarterDenominator
  if b.mantissa % 2 == 0 then !s.lt low den && s.le high den else !s.le low den && s.lt high den

/-- The exponent of the leading decimal digit: the largest `d` with `10 ^ d` at most the magnitude,
searched among `steps` candidates downwards from `d`. -/
def leadingExponent (b : Binary64) (steps : Nat) (d : Int) : Int :=
  match steps with
  | 0 => d
  | steps + 1 =>
    if (⟨1, d⟩ : Scientific).le b.numerator b.denominator then d
    else b.leadingExponent steps (d - 1)

/-- A first guess at `leadingExponent` from the size in bits, never too small. -/
def leadingGuess (b : Binary64) : Int :=
  (((b.mantissa.log2 : Int) + b.exponent) * 30103) / 100000 + 1

/-- The closest decimal with `n` digits that reads back as the magnitude, if there is one. -/
def atDigits? (b : Binary64) (leading : Int) (n : Nat) : Option Scientific :=
  let e := leading - n + 1
  let num := b.numerator * Nat.pow 10 (-e).toNat
  let den := b.denominator * Nat.pow 10 e.toNat
  let below : Scientific := ⟨num / den, e⟩
  let above : Scientific := ⟨num / den + 1, e⟩
  let twice := 2 * (num % den)
  let belowFirst := twice < den || (twice == den && below.digits % 2 == 0)
  match b.owns below, b.owns above with
  | true, true => some (if belowFirst then below else above)
  | true, false => some below
  | false, true => some above
  | false, false => none

/-- The shortest decimal of a magnitude. -/
def shortest (b : Binary64) : Scientific :=
  if b.isZero then ⟨0, 0⟩
  else
    let leading := b.leadingExponent 4 b.leadingGuess
    match (List.range' 1 17).findSome? (b.atDigits? leading) with
    | some s => s.stripZeros 17
    | none => ⟨b.mantissa, 0⟩

end Binary64

end HostRoster.Decimal
