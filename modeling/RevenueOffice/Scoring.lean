import RevenueOffice.Office.Basic
import RevenueOffice.Query.Terms

/-!
# Scoring an office against a query

An office is scored in four stages, region, district, general name and general region, each
adding adjustments by the weights of their criteria; the score is their sum. A term overlaps a
word when either occurs in the other, and a general term's reward grows with its length up to a
cap. Scoring with counts also keeps a tally of the offices scored, kept and discarded, and of
each criterion that fired.
-/

set_option autoImplicit false

namespace RevenueOffice

inductive Criterion where
  | regionMatch
  | regionMismatch
  | notDistrictOffice
  | districtMatch
  | districtMismatch
  | unexpectedDistrict
  | generalNameMatch
  | generalRegionMatch
  deriving DecidableEq, Repr

namespace Criterion

def all : List Criterion :=
  [.regionMatch, .regionMismatch, .notDistrictOffice, .districtMatch, .districtMismatch,
    .unexpectedDistrict, .generalNameMatch, .generalRegionMatch]

def name : Criterion → String
  | .regionMatch => "region_match"
  | .regionMismatch => "region_mismatch"
  | .notDistrictOffice => "not_district_office"
  | .districtMatch => "district_match"
  | .districtMismatch => "district_mismatch"
  | .unexpectedDistrict => "unexpected_district"
  | .generalNameMatch => "general_name_match"
  | .generalRegionMatch => "general_region_match"

def ofName? (n : String) : Option Criterion := all.find? (·.name == n)

def standardWeight : Criterion → Int
  | .regionMatch => 100
  | .regionMismatch => -200
  | .notDistrictOffice => -100
  | .districtMatch => 150
  | .districtMismatch => -75
  | .unexpectedDistrict => -20
  | .generalNameMatch => 20
  | .generalRegionMatch => 10

end Criterion

/-- The weights of the criteria, and the term length at which rewards for general terms stop
growing. -/
structure Scorer where
  weight : Criterion → Int := Criterion.standardWeight
  lengthCap : Int := 5

structure Adjustment where
  criterion : Criterion
  delta : Int
  detail : String

structure Candidate where
  office : Office
  score : Int
  adjustments : List Adjustment

/-- Whether a term and one of the words occur one in the other. -/
def overlaps (term : String) (words : List String) : Bool :=
  words.any fun w => Text.occurs term w || Text.occurs w term

def quoted (s : String) : String := "'" ++ s ++ "'"

namespace Scorer

def withWeights (overrides : List (Criterion × Int)) (lengthCap : Int := 5) : Scorer :=
  { weight := fun c => ((overrides.reverse.find? (·.1 == c)).map (·.2)).getD c.standardWeight
    lengthCap }

def adjust (s : Scorer) (c : Criterion) (detail : String) : Adjustment := ⟨c, s.weight c, detail⟩

/-- The reward for a general term: the weight times the term's length, capped. -/
def reward (s : Scorer) (c : Criterion) (term detail : String) : Adjustment :=
  ⟨c, s.weight c * min (term.length : Int) s.lengthCap, detail⟩

def regionStage (s : Scorer) (o : Office) (t : Terms) : List Adjustment :=
  if t.regions.isEmpty then [] else
  let hit := match o.normalRegion with
    | some g => if g = "" then none else (t.regions.find? (Text.occurs · g)).map (·, g)
    | none => none
  match hit with
  | some (r, g) => [s.adjust .regionMatch (quoted r ++ " in " ++ quoted g)]
  | none => [s.adjust .regionMismatch ("no match for " ++ ", ".intercalate t.regions)]

def districtStage (s : Scorer) (o : Office) (t : Terms) : List Adjustment :=
  if t.districts.isEmpty then
    if o.isDistrict then [s.adjust .unexpectedDistrict "district office, no input district"]
    else []
  else if !o.isDistrict then
    [s.adjust .notDistrictOffice "input district specified, office is not a district office"]
  else
    match t.districts.filter (overlaps · o.nameTokens) with
    | [] => [s.adjust .districtMismatch ("no name match for " ++ ", ".intercalate t.districts)]
    | hits => hits.map fun d =>
      s.adjust .districtMatch (quoted d ++ " in [" ++ ", ".intercalate o.nameTokens ++ "]")

def generalNameStage (s : Scorer) (o : Office) (t : Terms) : List Adjustment :=
  (t.general.filter (overlaps · o.nameTokens)).map fun g =>
    s.reward .generalNameMatch g (quoted g ++ " in name")

def generalRegionStage (s : Scorer) (o : Office) (t : Terms) : List Adjustment :=
  if !t.regions.isEmpty then [] else
  match o.normalRegion with
  | some g =>
    if g = "" then [] else
    (t.general.filter (Text.occurs · g)).map fun term =>
      s.reward .generalRegionMatch term (quoted term ++ " in region " ++ quoted g)
  | none => []

/-- The adjustments of an office for a query, stage by stage. -/
def adjustments (s : Scorer) (o : Office) (t : Terms) : List Adjustment :=
  s.regionStage o t ++ s.districtStage o t ++ s.generalNameStage o t ++ s.generalRegionStage o t

def score (s : Scorer) (o : Office) (t : Terms) : Candidate :=
  let adj := s.adjustments o t
  ⟨o, (adj.map (·.delta)).foldl (· + ·) 0, adj⟩

/-- The offices that score strictly above the floor, in register order. -/
def candidates (s : Scorer) (offices : List Office) (t : Terms) (floor : Int) : List Candidate :=
  (offices.map (s.score · t)).filter (floor < ·.score)

end Scorer

def signed (n : Int) : String := if n < 0 then toString n else "+" ++ toString n

def Candidate.explain (c : Candidate) : List String :=
  c.adjustments.map fun a => signed a.delta ++ " (" ++ a.criterion.name ++ ": " ++ a.detail ++ ")"

/-- A tally with one more count under a name, as a dictionary keeps it: a name already counted
keeps its place and counts one more, and a new name is added at the end with count one. -/
def bump : List (String × Nat) → String → List (String × Nat)
  | [], k => [(k, 1)]
  | (j, n) :: rest, k => if j = k then (j, n + 1) :: rest else (j, n) :: bump rest k

namespace Scorer

/-- Score one office and count it in the shared tally: once as `scored`, once under the name of
each adjustment's criterion, and once as `kept` or `discarded`; a kept candidate joins the list. -/
def countOne (s : Scorer) (t : Terms) (floor : Int) (acc : List Candidate × List (String × Nat))
    (o : Office) : List Candidate × List (String × Nat) :=
  let c := s.score o t
  let stats := c.adjustments.foldl (fun d a => bump d a.criterion.name) (bump acc.2 "scored")
  if floor < c.score then (acc.1 ++ [c], bump stats "kept") else (acc.1, bump stats "discarded")

/-- The candidates above the floor, with one tally of how many offices were scored, kept and
discarded and how often each criterion adjusted a score, over all scored offices. -/
def candidatesCounted (s : Scorer) (offices : List Office) (t : Terms) (floor : Int) :
    List Candidate × List (String × Nat) :=
  offices.foldl (s.countOne t floor) ([], [("scored", 0), ("kept", 0), ("discarded", 0)])

end Scorer

end RevenueOffice
