import RevenueOffice.Decimal.Binary

/-!
# Shortest decimal text of a binary value

The shortest text of a binary value is the decimal with the fewest significant digits among those
that read back as the value, the nearer one if two have that many. On each grid of `10 ^ t` it is
enough to test the two multiples that enclose the value, so the grids are tried from coarse to
fine; seventeen digits always suffice. A `Style` lays the digits out positionally or with an
exponent.
-/

set_option autoImplicit false

namespace RevenueOffice.Decimal

structure Scientific where
  digits : Nat
  power : Int
  deriving DecidableEq, Repr

def decimalLength (n : Nat) : Nat :=
  if n < 10 then 1 else decimalLength (n / 10) + 1
termination_by n
decreasing_by omega

def compareScaled (c : Nat) (t : Int) (x : Nat) (f : Int) : Ordering :=
  compare (c * Nat.pow 10 t.toNat * Nat.pow 2 (-f).toNat)
    (x * Nat.pow 2 f.toNat * Nat.pow 10 (-t).toNat)

def decimalExponent (n d : Nat) : Int :=
  let guess : Int := (decimalLength n : Int) - decimalLength d
  let below : Bool :=
    if 0 ≤ guess then n < d * Nat.pow 10 guess.toNat else n * Nat.pow 10 (-guess).toNat < d
  if below then guess - 1 else guess

/-- The interval of reals that read back as a positive value, in quarters of its last binary
place: its ends, and whether they belong to it. The gap below a power of two is half the gap
above it, unless the value is the least of its exponent. -/
def Binary.readBack (b : Binary) : Nat × Nat × Bool :=
  let low :=
    if b.mantissa = Nat.pow 2 fractionBits && b.exponent > leastExponent then 4 * b.mantissa - 1
    else 4 * b.mantissa - 2
  (low, 4 * b.mantissa + 2, b.mantissa % 2 == 0)

def Binary.readsBackFrom (b : Binary) (c : Nat) (t : Int) : Bool :=
  let (low, high, closed) := b.readBack
  let f := b.exponent - 2
  let aboveLow := match compareScaled c t low f with
    | .gt => true
    | .eq => closed
    | .lt => false
  let belowHigh := match compareScaled c t high f with
    | .lt => true
    | .eq => closed
    | .gt => false
  aboveLow && belowHigh

/-- The decimal with `t` places of precision that is nearest to `b` and reads back as it, if
either of the two that enclose `b` does; of two equally near, the even one. -/
def Binary.onGrid (b : Binary) (t : Int) : Option Nat :=
  let below := (b.mantissa * Nat.pow 2 b.exponent.toNat * Nat.pow 10 (-t).toNat) /
    (Nat.pow 2 (-b.exponent).toNat * Nat.pow 10 t.toNat)
  let lowHit := below > 0 && b.readsBackFrom below t
  let highHit := b.readsBackFrom (below + 1) t
  if lowHit && highHit then
    match compareScaled (2 * below + 1) t (2 * b.mantissa) b.exponent with
    | .gt => some below
    | .lt => some (below + 1)
    | .eq => some (if below % 2 == 0 then below else below + 1)
  else if lowHit then some below
  else if highHit then some (below + 1)
  else none

def Binary.firstGrid (b : Binary) : Nat → Int → Option Scientific
  | 0, _ => none
  | fuel + 1, t =>
    match b.onGrid t with
    | some c => some ⟨c, t⟩
    | none => b.firstGrid fuel (t - 1)

def Scientific.trim (s : Scientific) : Scientific :=
  if h : s.digits ≠ 0 ∧ s.digits % 10 = 0 then Scientific.trim ⟨s.digits / 10, s.power + 1⟩
  else s
termination_by s.digits
decreasing_by exact Nat.div_lt_self (Nat.pos_of_ne_zero h.1) (by decide)

/-- The shortest decimal that reads back as `b`, nearest to `b` among the shortest. -/
def Binary.shortest (b : Binary) : Scientific :=
  if b.mantissa = 0 then ⟨0, 0⟩ else
  let (n, d) := b.ratio
  match b.firstGrid 20 (decimalExponent n d + 1) with
  | some s => s.trim
  | none => ⟨b.mantissa, 0⟩

/-- How a decimal is written: positionally when its point, counted from the left of its digits,
lies in `[lowestPoint, highestPoint]`, else as one digit, a point, the other digits and an
exponent of at least `exponentWidth` digits with its sign. A whole number keeps `.0`. -/
structure Style where
  lowestPoint : Int
  highestPoint : Int
  exponentWidth : Nat

def zeros (n : Nat) : String := String.ofList (List.replicate n '0')

def Style.write (style : Style) (s : Scientific) : String :=
  if s.digits = 0 then "0.0" else
  let ds := toString s.digits
  let n := ds.length
  let point : Int := n + s.power
  if style.lowestPoint ≤ point && point ≤ style.highestPoint then
    if point ≤ 0 then "0." ++ zeros (-point).toNat ++ ds
    else if point < n then
      String.ofList (ds.toList.take point.toNat) ++ "." ++
        String.ofList (ds.toList.drop point.toNat)
    else ds ++ zeros (point.toNat - n) ++ ".0"
  else
    let e := point - 1
    let digitsOfE := toString e.natAbs
    String.ofList (ds.toList.take 1) ++
      (if n > 1 then "." ++ String.ofList (ds.toList.drop 1) else "") ++
      "e" ++ (if e < 0 then "-" else "+") ++ zeros (style.exponentWidth - digitsOfE.length) ++
      digitsOfE

end RevenueOffice.Decimal
