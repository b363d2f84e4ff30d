import RevenueOffice.Query.Part
import RevenueOffice.Office.Name

/-!
# Terms of a query

Each part of a query contributes terms of one kind: the normal name of the region it names, the
words of at least two letters left once the word for "district" is stripped from a district part,
or else its words once its affix words are stripped, all of them if nothing is left. Each kind is
listed once, in order of first appearance, general terms without the region and district ones.
-/

set_option autoImplicit false

namespace RevenueOffice

/-- The terms found in a query. -/
structure Terms where
  raw : String
  regions : List String
  districts : List String
  general : List String
  all : List String

def firstOccurrencesFrom (seen : List String) : List String → List String
  | [] => []
  | x :: xs => if seen.contains x then firstOccurrencesFrom seen xs
    else x :: firstOccurrencesFrom (x :: seen) xs

/-- A list without its later repetitions: each item once, where it first appears. -/
def firstOccurrences (xs : List String) : List String := firstOccurrencesFrom [] xs

namespace Query

/-- What one part of a query contributes. -/
inductive PartTerms where
  | region (name : String)
  | district (terms : List String)
  | general (terms : List String)

/-- The terms that a lowercased part contributes. -/
def partTerms (low : List Char) : PartTerms :=
  match (if namesRegion low then Region.normalChars low else none) with
  | some r => .region (String.ofList r)
  | none =>
    let core := if namesDistrict low then Text.normalWords (applyAll districtRules low) else []
    if !core.isEmpty then .district ((core.filter (1 < ·.length)).map String.ofList)
    else
      let cleaned := Text.normalWords (applyAll generalRules low)
      .general ((if cleaned.isEmpty then Text.normalWords low else cleaned).map String.ofList)

def regionsOf : List PartTerms → List String
  | [] => []
  | .region r :: ps => r :: regionsOf ps
  | _ :: ps => regionsOf ps

def districtsOf : List PartTerms → List String
  | [] => []
  | .district ts :: ps => ts ++ districtsOf ps
  | _ :: ps => districtsOf ps

def generalOf : List PartTerms → List String
  | [] => []
  | .general ts :: ps => ts ++ generalOf ps
  | _ :: ps => generalOf ps

end Query

namespace Terms

/-- The terms of a query. -/
def parse (query : String) : Terms :=
  let found :=
    (Query.partChars query.toList).map (fun p => Query.partTerms (Text.lowerFrom false p))
  let regions := firstOccurrences (Query.regionsOf found)
  let districts := firstOccurrences ((Query.districtsOf found).filter (1 < ·.length))
  let general := firstOccurrences
    ((Query.generalOf found).filter (fun t => !regions.contains t && !districts.contains t))
  { raw := query, regions, districts, general
    all := firstOccurrences (regions ++ districts ++ general) }

def isEmpty (t : Terms) : Bool := t.all.isEmpty

end Terms

end RevenueOffice
