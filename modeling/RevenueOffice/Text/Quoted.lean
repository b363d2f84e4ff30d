import RevenueOffice.Text.Printable

/-!
# Quoted literals

A text written as a literal between quotes, as diagnostics print it: single quotes, or double
quotes if the text holds a single quote and no double quote. The quote in use and the backslash
are escaped by a backslash; tab, line feed and carriage return by their letters; any other
character that is not printable by its code in hexadecimal, with two, four or eight digits. The
ASCII form of a literal writes every character beyond ASCII by its code as well.
-/

set_option autoImplicit false

namespace RevenueOffice.Text

def hexPadded (width n : Nat) : String :=
  let ds := Nat.toDigits 16 n
  String.ofList (List.replicate (width - ds.length) '0' ++ ds)

/-- A character written by its code: a backslash, then `x` and two digits up to `0xFF`, `u` and
four up to `0xFFFF`, `U` and eight beyond. -/
def codeEscape (c : Char) : String :=
  if c.toNat ≤ 0xFF then "\\x" ++ hexPadded 2 c.toNat
  else if c.toNat ≤ 0xFFFF then "\\u" ++ hexPadded 4 c.toNat
  else "\\U" ++ hexPadded 8 c.toNat

/-- How a character is written inside a literal quoted by `quote`. -/
def escapeIn (quote c : Char) : String :=
  if c = quote || c = '\\' then String.ofList ['\\', c]
  else if c = '\t' then "\\t"
  else if c = '\n' then "\\n"
  else if c = '\r' then "\\r"
  else if isPrintable c then String.singleton c
  else codeEscape c

/-- A text as a quoted literal. -/
def literal (s : String) : String :=
  let q := if s.toList.contains '\'' && !s.toList.contains '"' then '"' else '\''
  String.singleton q ++ String.join (s.toList.map (escapeIn q)) ++ String.singleton q

def inAscii (s : String) : String :=
  String.join (s.toList.map fun c => if c.toNat < 0x80 then String.singleton c else codeEscape c)

def asciiLiteral (s : String) : String := inAscii (literal s)

example : asciiLiteral "é x" = "'\\xe9 x'" := by decide

def literalList (xs : List String) : String := "[" ++ ", ".intercalate (xs.map literal) ++ "]"

end RevenueOffice.Text
