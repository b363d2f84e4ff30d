import RevenueOffice.Office.Name

/-!
# Offices

An office of the register: its code, its BIN, its name and region as written, and what matching
reads from them, namely the distinguishing words of the name, the normal region name, and whether
it is a district office. `Office.build` derives these once from the written fields.
-/

set_option autoImplicit false

namespace RevenueOffice

/-- A tax office as matching sees it. Code and BIN are absent only in an office built from
fields that lack them; an office of a register always has them, empty if its row lacks them. -/
structure Office where
  code : Option String
  bin : Option String
  name : String
  region : Option String
  nameTokens : List String
  normalRegion : Option String
  isDistrict : Bool

namespace Office

/-- An office from its written fields: name and region are trimmed, an empty region is none,
and the derived fields are computed from the trimmed values. -/
def build (code bin : Option String) (name : String) (region : Option String) : Office :=
  let name := Text.trim name
  let region := (region.map Text.trim).filter (· ≠ "")
  { code, bin, name, region
    nameTokens := OfficeName.tokens name
    normalRegion := region.bind Region.normalName
    isDistrict := OfficeName.namesDistrict name }

def codeText (o : Office) : String := o.code.getD "None"

end Office

end RevenueOffice
