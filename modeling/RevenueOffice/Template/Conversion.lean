import RevenueOffice.Decimal.Precision
import RevenueOffice.Text.Quoted

/-!
# Conversions of template fields

A field of a template writes a value by its flags, width, precision and conversion letter: as
text or a literal (`s`, `r`, `a`), as an integer in a base (`d i u o x X`), as the nearest binary
value in exponent, fixed or general notation (`e f g` and capitals), or as a character (`c`).
Numbers take their sign and prefix, and the field is padded to its width on the side the flags
say. A conversion that does not suit its value gives nothing.
-/

set_option autoImplicit false

namespace RevenueOffice.Template

/-- A value a field can name. -/
inductive Value where
  | text (s : String)
  | integer (n : Int)
  | none
  | whole (literal : String)
  deriving DecidableEq, Repr

structure Flags where
  left : Bool := false
  plus : Bool := false
  blank : Bool := false
  alternate : Bool := false
  zero : Bool := false
  deriving DecidableEq, Repr

def Flags.set? (f : Flags) : Char → Option Flags
  | '-' => some { f with left := true }
  | '+' => some { f with plus := true }
  | ' ' => some { f with blank := true }
  | '#' => some { f with alternate := true }
  | '0' => some { f with zero := true }
  | _ => Option.none

/-- How a field is written: flags, width, precision and conversion letter. -/
structure Spec where
  flags : Flags := {}
  width : Nat := 0
  precision : Option Nat := Option.none
  conversion : Char
  deriving DecidableEq, Repr

def maxCodePoint : Nat := 0x10FFFF

def Value.show : Value → String
  | .text s => s
  | .integer n => toString n
  | .none => "None"
  | .whole l => l

def Value.literal : Value → String
  | .text s => Text.literal s
  | v => v.show

def Value.asciiLiteral : Value → String
  | .text s => Text.asciiLiteral s
  | .whole l => Text.inAscii l
  | v => v.show

def digitsIn (base n : Nat) : List Char := Nat.toDigits base n

/-- An integer in a base, with at least `least` digits, the prefix before them in the alternate
form, and its minus sign. -/
def integerText (n : Int) (base : Nat) (pre : List Char) (least : Nat) : List Char :=
  let ds := digitsIn base n.natAbs
  (if n < 0 then ['-'] else []) ++ pre ++ List.replicate (least - ds.length) '0' ++ ds

def overflowExponent : Int := 971

def binaryOf (n : Int) : Option (Bool × Decimal.Binary) :=
  let b := Decimal.Binary.nearest n.natAbs 1
  if b.exponent > overflowExponent then Option.none else some (n < 0, b)

def layoutOf (c : Char) (precision : Nat) (alternate : Bool) : Option Decimal.Layout :=
  let form : Option Decimal.Form := match c.toLower with
    | 'e' => some .exponent
    | 'f' => some .fixed
    | 'g' => some .general
    | _ => Option.none
  form.map fun f => { form := f, precision, alternate, capitals := c.isUpper }

/-- The converted text of a value, before padding, and whether it is a number. -/
def Spec.convert (spec : Spec) (v : Value) : Option (List Char × Bool) :=
  let cut (s : String) : List Char :=
    match spec.precision with
    | some p => s.toList.take p
    | Option.none => s.toList
  let least := spec.precision.getD 1
  let alt := spec.flags.alternate
  match spec.conversion, v with
  | 's', v => some (cut v.show, false)
  | 'r', v => some (cut v.literal, false)
  | 'a', v => some (cut v.asciiLiteral, false)
  | 'd', .integer n | 'i', .integer n | 'u', .integer n => some (integerText n 10 [] least, true)
  | 'o', .integer n => some (integerText n 8 (if alt then ['0', 'o'] else []) least, true)
  | 'x', .integer n => some (integerText n 16 (if alt then ['0', 'x'] else []) least, true)
  | 'X', .integer n =>
    some ((integerText n 16 (if alt then ['0', 'x'] else []) least).map Char.toUpper, true)
  | 'c', .integer n =>
    if 0 ≤ n && n ≤ maxCodePoint && Nat.isValidChar n.toNat then
      some ([Char.ofNat n.toNat], false)
    else Option.none
  | 'c', .text s => if s.length = 1 then some (s.toList, false) else Option.none
  | c, .integer n =>
    match layoutOf c (spec.precision.getD 6) alt, binaryOf n with
    | some layout, some (negative, b) => some (b.layOutSigned negative layout, true)
    | _, _ => Option.none
  | _, _ => Option.none

def prefixed (c : Char) : Bool := c == 'o' || c == 'x' || c == 'X'

/-- The converted text padded to the width of the field. -/
def Spec.pad (spec : Spec) (body : List Char) (numeric : Bool) : List Char :=
  let f := spec.flags
  let zeroFill := numeric && f.zero
  let (sign, rest) : List Char × List Char :=
    if !numeric then ([], body)
    else match body with
      | '-' :: r => (['-'], r)
      | '+' :: r => (['+'], r)
      | _ => (if f.plus then ['+'] else if f.blank then [' '] else [], body)
  let (pre, digits) :=
    if numeric && f.alternate && prefixed spec.conversion then (rest.take 2, rest.drop 2)
    else ([], rest)
  let room := max spec.width rest.length - sign.length - pre.length
  let gap := room - digits.length
  if f.left then sign ++ pre ++ digits ++ List.replicate gap ' '
  else if zeroFill then sign ++ pre ++ List.replicate gap '0' ++ digits
  else List.replicate gap ' ' ++ sign ++ pre ++ digits

def Spec.render (spec : Spec) (v : Value) : Option (List Char) :=
  (spec.convert v).map fun (body, numeric) => spec.pad body numeric

end RevenueOffice.Template
