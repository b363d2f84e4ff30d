import RevenueOffice.Office.Basic

/-!
# The register of offices

The offices in the order of their source, with the file they were read from, if any. A row gives
an office's written fields; a missing code, BIN or name counts as empty text.
-/

set_option autoImplicit false

namespace RevenueOffice

structure Row where
  code : Option String
  bin : Option String
  name : Option String
  region : Option String

/-- The offices, in source order, and where they were read from. -/
structure Register where
  offices : List Office
  source : Option String := none

namespace Register

def officeOf (r : Row) : Office :=
  Office.build (some (r.code.getD "")) (some (r.bin.getD "")) (r.name.getD "") r.region

def ofRows (rows : List Row) (source : Option String := none) : Register :=
  { offices := rows.map officeOf, source }

def size (t : Register) : Nat := t.offices.length

def isEmpty (t : Register) : Bool := t.offices.isEmpty

/-- The first office with the code; no office of a register lacks a code. -/
def find? (t : Register) (code : Option String) : Option Office := t.offices.find? (·.code == code)

end Register

end RevenueOffice
