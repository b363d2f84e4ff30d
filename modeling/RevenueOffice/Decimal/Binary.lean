/-!
# Binary floating-point values

A nonnegative finite value of the 64-bit binary format is `mantissa * 2 ^ exponent`, with a
mantissa below `2 ^ 53` and an exponent of at least `-1074`; a normal value has a mantissa of at
least `2 ^ 52`. `Binary.nearest n d` is the value nearest to `n / d`, a tie going to the even
mantissa, which is how the format rounds a quotient or a product. Values too large for the format
do not arise here and are not treated.
-/

set_option autoImplicit false

namespace RevenueOffice.Decimal

/-- A nonnegative value `mantissa * 2 ^ exponent` of the 64-bit binary format. -/
structure Binary where
  mantissa : Nat
  exponent : Int
  deriving DecidableEq, Repr

/-- The quotient `n / d` rounded to the nearest whole number, a tie going to the even one. -/
def roundHalfEven (n d : Nat) : Nat :=
  let q := n / d
  let r := n % d
  if 2 * r > d || (2 * r == d && q % 2 == 1) then q + 1 else q

def bitLength (n : Nat) : Nat := if n = 0 then 0 else Nat.log2 n + 1

def scaledRatio (n : Nat) (e : Int) : Nat × Nat := (n * Nat.pow 2 e.toNat, Nat.pow 2 (-e).toNat)

def binaryExponent (n d : Nat) : Int :=
  let guess : Int := (bitLength n : Int) - bitLength d
  let below : Bool :=
    if 0 ≤ guess then n < d * Nat.pow 2 guess.toNat else n * Nat.pow 2 (-guess).toNat < d
  if below then guess - 1 else guess

def fractionBits : Nat := 52

def leastExponent : Int := -1074

/-- The value of the format nearest to `n / d`, a tie going to the even mantissa. -/
def Binary.nearest (n d : Nat) : Binary :=
  if n = 0 || d = 0 then ⟨0, 0⟩ else
  let shift := max (binaryExponent n d - fractionBits) leastExponent
  let (num, den) :=
    if shift < 0 then (n * Nat.pow 2 (-shift).toNat, d) else (n, d * Nat.pow 2 shift.toNat)
  let m := roundHalfEven num den
  if m = Nat.pow 2 (fractionBits + 1) then ⟨Nat.pow 2 fractionBits, shift + 1⟩ else ⟨m, shift⟩

def Binary.ratio (b : Binary) : Nat × Nat := scaledRatio b.mantissa b.exponent

def Binary.scale (b : Binary) (k : Nat) : Binary :=
  let (n, d) := scaledRatio (b.mantissa * k) b.exponent
  Binary.nearest n d

example : Binary.nearest 1 2 = ⟨4503599627370496, -53⟩ := by decide
example : Binary.nearest 2 3 = ⟨6004799503160661, -53⟩ := by decide

end RevenueOffice.Decimal
