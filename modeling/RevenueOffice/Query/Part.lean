import RevenueOffice.Rule
import RevenueOffice.Text.Chars

/-!
# Parts of a query

A query is cut into parts at a comma, a semicolon or a slash, or at one of the connectives `и`,
`или`, `or` written between separators and matched in the letter case given; each part is trimmed
and empty parts are dropped. A lowercased part names a region, a district or neither, and the
affix rules strip the words that stand around a place name in it.
-/

set_option autoImplicit false

namespace RevenueOffice.Query

open Pattern

/-- What separates two parts of a query. -/
def separator : Pattern :=
  .alt
    (seqAll [oneOrMore { chars := [',', ';', '/'], blanks := true }, anyOf ["и", "или", "or"],
      oneOrMore { chars := [',', ';'], blanks := true }])
    (.one { chars := [',', ';', '/'] })

/-- The trimmed, nonempty parts of a query, as characters. -/
def partChars (query : List Char) : List (List Char) :=
  ((separator.split query).map Text.trimChars).filter (!·.isEmpty)

def parts (query : String) : List String := (partChars query.toList).map String.ofList

def regionEndings : List String := [" область", " обл", " обл."]

def cityBeginnings : List String := ["г.алматы", "г.астана", "г.нур-султан", "г.шымкент"]

def districtMarkers : List String := [" район", " р-н", " ауданы"]

/-- Whether a lowercased part names a region or one of the largest cities. -/
def namesRegion (low : List Char) : Bool :=
  regionEndings.any (·.toList.isSuffixOf low) || cityBeginnings.any (·.toList.isPrefixOf low)

/-- Whether a lowercased part names a district. -/
def namesDistrict (low : List Char) : Bool := districtMarkers.any (Text.occursIn ·.toList low)

/-! ### Affixes -/

def districtWord : Pattern := anyOf ["район", "р-н", "ауданы"]

def districtRules : List Rule :=
  [.strip "district_suffix" (seqAll [blanks, districtWord, .finish]) [],
   .strip "district_prefix" (seqAll [.start, districtWord, blanks]) []]

def localityAffix : Pattern :=
  anyOf ["город", "г.", "пос.", "село", "с.", "область", "обл.", "район", "р-н"]

/-- The rules that strip one affix word at the start and one at the end of a part. -/
def generalRules : List Rule :=
  [.strip "locality_prefix" (seqAll [.start, localityAffix, blanks]) [],
   .strip "locality_suffix" (seqAll [blanks, localityAffix, .finish]) []]

end RevenueOffice.Query
