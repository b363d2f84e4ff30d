import RevenueOffice.Rule
import RevenueOffice.Text.Normal

/-!
# Office names and region names

An office name is reduced to the words that tell offices apart: rules strip the authority, a
locality word and the words for "district" and "region", keep the stem of a district in
adjectival form, the name a district is named after or a quoted name, and what is left is cut
into words in text normal form. A region is compared by its normal name: without the word for
"region" at its end or for "city" at its start, in text normal form, and none if that is empty.
-/

set_option autoImplicit false

namespace RevenueOffice.OfficeName

open Pattern

/-- A district stem ending in `ск` is kept; one ending in `ом` or `ым` loses those two letters. -/
def trimStem (stem : List Char) : List Char :=
  if "ск".toList.isSuffixOf stem then stem
  else if "ом".toList.isSuffixOf stem || "ым".toList.isSuffixOf stem then stem.dropLast.dropLast
  else stem

def nonBlank : CharSet := { chars := [], blanks := true, negated := true }

def rules : List Rule :=
  [.strip "authority_prefix"
    (seqAll [.start, anyOf ["угд", "дгд", "ну", "департамент государственных доходов"], blanks,
      optional (lit "по"), blanks]) [],
   .strip "locality_prefix"
    (seqAll [.start, anyOf ["городу", "г.", "пос.", "село", "с."], blanks]) [],
   .capture "district_suffix_form"
    (seqAll [.start, .group (oneOrMore nonBlank),
      anyOf ["ому", "скому", "овскому", "евскому", "ынскому", "енскому", "им."], blanks1,
      lit "району"]) trimStem,
   .capture "district_named_after"
    (seqAll [.start, lit "району", blanks1, optional (.seq (lit "имени") blanks),
      .group (oneOrMore { chars := [','], negated := true })]) id,
   .capture "quoted_name"
    (seqAll [.start, lit "\"", .group (oneOrMore { chars := ['"'], negated := true }),
      lit "\""]) id,
   .strip "district_word"
    (.alt (seqAll [blanks, lit "району", blanks]) (seqAll [blanks, lit "район", blanks, .finish]))
    [' '],
   .strip "region_word"
    (.alt (seqAll [blanks, lit "облысы", blanks]) (seqAll [blanks, lit "область", blanks, .finish]))
    [' ']]

def keepsWord (w : List Char) : Bool := 1 < w.length || w.any Text.isDecimalDigit

/-- The distinguishing words of an office name. -/
def tokens (name : String) : List String :=
  ((Text.normalWords (applyAll rules (Text.lowerFrom false name.toList))).filter keepsWord).map
    String.ofList

/-- Whether an office name names a district office: it contains the word stem `район`. -/
def namesDistrict (name : String) : Bool :=
  Text.occursIn "район".toList (Text.lowerFrom false name.toList)

end RevenueOffice.OfficeName

namespace RevenueOffice.Region

open Pattern

def rules : List Rule :=
  [.strip "region_suffix" (seqAll [blanks, anyOf ["область", "обл.", "обл"], .finish]) [],
   .strip "city_prefix"
    (seqAll [.start, anyOf ["город", "г"], .one { chars := ['.'], blanks := true }, blanks]) []]

def normalChars (region : List Char) : Option (List Char) :=
  match Text.normalChars (applyAll rules (Text.trimChars (Text.lowerFrom false region))) with
  | [] => none
  | cs => some cs

/-- The normal name of a region, or nothing if the name is empty or reduces to nothing. -/
def normalName (region : String) : Option String :=
  (normalChars region.toList).map String.ofList

end RevenueOffice.Region
