import RevenueOffice.Decimal.Shortest

/-!
# Decimal notations at a precision

A binary value is written in fixed, exponent or general notation at a precision, its digits
correctly rounded with a tie going to the even digit. The digits are computed first, as a digit
string without zeros at its end and the position of the point, and then laid out up to the last
place the notation asks for. An exact quotient is written with a fixed number of places the same
way, which is how percentages are written.
-/

set_option autoImplicit false

namespace RevenueOffice.Decimal

/-- Digits `d₁ d₂ …` with the point after `point` of them: the value `0.d₁d₂… * 10 ^ point`. -/
structure Digits where
  digits : List Char
  point : Int

def significantDigits (n : Nat) : List Char :=
  ((Nat.toDigits 10 n).reverse.dropWhile (· == '0')).reverse

def roundScaled (n d : Nat) (k : Int) : Nat :=
  if 0 ≤ k then roundHalfEven (n * Nat.pow 10 k.toNat) d
  else roundHalfEven n (d * Nat.pow 10 (-k).toNat)

/-- The digits of a value rounded to `places` places after the point. A value that rounds to
zero there has no digits, and its point stands `places` places before the first. -/
def Binary.atPlaces (b : Binary) (places : Nat) : Digits :=
  if b.mantissa = 0 then ⟨['0'], 1⟩ else
  let (n, d) := b.ratio
  let r := roundScaled n d places
  if r = 0 then ⟨[], -(places : Int)⟩
  else ⟨significantDigits r, ((toString r).length : Int) - places⟩

def Binary.significant (b : Binary) (count : Nat) : Digits :=
  if b.mantissa = 0 then ⟨['0'], 1⟩ else
  let count := max count 1
  let (n, d) := b.ratio
  let e := decimalExponent n d
  let r := roundScaled n d ((count : Int) - 1 - e)
  if r = Nat.pow 10 count then ⟨['1'], e + 2⟩
  else ⟨significantDigits r, e + 1⟩

inductive Form where
  | fixed
  | exponent
  | general
  deriving DecidableEq, Repr

structure Layout where
  form : Form
  precision : Nat
  alternate : Bool := false
  capitals : Bool := false

def zeroChars (n : Int) : List Char := List.replicate n.toNat '0'

/-- Digits laid out positionally up to the place `last` (counted like `point`): a zero and the
point first if the point comes before the digits, zeros to fill up to the point or to `last`,
and no point at the end unless `keepPoint`. -/
def Digits.positional (ds : Digits) (last : Int) (keepPoint : Bool) : List Char :=
  let len : Int := ds.digits.length
  let last := max last ds.point
  let front := if ds.point ≤ 0 then '0' :: '.' :: zeroChars (-ds.point) else []
  let body :=
    if 0 < ds.point && ds.point ≤ len then
      ds.digits.take ds.point.toNat ++ '.' :: ds.digits.drop ds.point.toNat
    else ds.digits
  let back :=
    if len < ds.point then zeroChars (ds.point - len) ++ '.' :: zeroChars (last - ds.point)
    else zeroChars (last - len)
  let out := front ++ body ++ back
  if !keepPoint && out.getLast? == some '.' then out.dropLast else out

def exponentText (e : Int) : List Char :=
  let ds := Nat.toDigits 10 e.natAbs
  (if e < 0 then '-' else '+') :: List.replicate (2 - ds.length) '0' ++ ds

def Digits.scientific (ds : Digits) (last : Int) (layout : Layout) : List Char :=
  ({ ds with point := 1 } : Digits).positional last layout.alternate ++
    (if layout.capitals then 'E' else 'e') :: exponentText (ds.point - 1)

/-- A nonnegative value written in a layout. -/
def Binary.layOut (b : Binary) (layout : Layout) : List Char :=
  match layout.form with
  | .fixed =>
    let ds := b.atPlaces layout.precision
    ds.positional (ds.point + layout.precision) layout.alternate
  | .exponent => (b.significant (layout.precision + 1)).scientific (layout.precision + 1) layout
  | .general =>
    let p := max layout.precision 1
    let ds := b.significant p
    let last : Int := if layout.alternate then p else ds.digits.length
    if ds.point ≤ -4 || ds.point > p then ds.scientific last layout
    else ds.positional last layout.alternate

def Binary.layOutSigned (negative : Bool) (b : Binary) (layout : Layout) : List Char :=
  (if negative then ['-'] else []) ++ b.layOut layout

/-! ### Fixed places of an exact quotient -/

/-- The text of `n / d` with `places` decimals. -/
def fixed (n d places : Nat) : String :=
  let unit := Nat.pow 10 places
  let scaled := roundHalfEven (n * unit) d
  let fraction := toString (scaled % unit)
  toString (scaled / unit) ++
    (if places = 0 then "" else "." ++ zeros (places - fraction.length) ++ fraction)

def Binary.fixed (b : Binary) (places : Nat) : String :=
  let (n, d) := b.ratio
  Decimal.fixed n d places

def Binary.percent (b : Binary) (places : Nat) : String :=
  (b.scale 100).fixed places ++ "%"

example : fixed 1 4 1 = "0.2" ∧ fixed 3 4 1 = "0.8" ∧ fixed 2 3 1 = "0.7" := by decide

end RevenueOffice.Decimal
