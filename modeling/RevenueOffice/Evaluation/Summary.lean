import RevenueOffice.Decimal.Precision
import RevenueOffice.Evaluation.Cases
import RevenueOffice.Resolution.Record

/-!
# The summary of an evaluation

Each case is resolved; it passes when the code of the office chosen, or none, is the code
expected, or none. The summary counts the cases that pass, and its accuracy is their share as a
binary value, written as a percentage with one decimal on the console and as the shortest decimal
in the record; a summary of no cases has accuracy `0`.
-/

set_option autoImplicit false

namespace RevenueOffice.Evaluation

structure Outcome where
  case : Case
  resolution : Resolution

def Outcome.actual (o : Outcome) : Option String := o.resolution.chosen.bind (·.office.code)

def Outcome.passed (o : Outcome) : Bool := o.actual == o.case.expected

def shown : Option String → String
  | some s => s
  | none => "None"

def Outcome.line (o : Outcome) : String :=
  (if o.passed then "PASSED" else "FAILED") ++ ": '" ++ shown o.case.input ++ "' -> expected " ++
    shown o.case.expected ++ ", got " ++ shown o.actual

def Outcome.record (o : Outcome) : JsonValue :=
  .obj [("input", .ofOption o.case.input), ("expected_code", .ofOption o.case.expected),
    ("actual_code", .ofOption o.actual), ("passed", .bool o.passed),
    ("details", o.resolution.record)]

structure Summary where
  outcomes : List Outcome

def Summary.passed (s : Summary) : Nat := (s.outcomes.filter (·.passed)).length

def Summary.total (s : Summary) : Nat := s.outcomes.length

/-- The share of cases that pass, as a binary value; zero without cases. -/
def Summary.accuracy (s : Summary) : Decimal.Binary := Decimal.Binary.nearest s.passed s.total

/-- How the record writes a number: positionally from `0.0001` to below `10 ^ 16`, else with an
exponent of at least two digits. -/
def numberStyle : Decimal.Style := ⟨-3, 16, 2⟩

def Summary.accuracyLine (s : Summary) : String :=
  "Accuracy: " ++ toString s.passed ++ "/" ++ toString s.total ++ " (" ++ s.accuracy.percent 1 ++
    ")"

def Summary.record (s : Summary) : JsonValue :=
  .obj [("passed", .int s.passed), ("total", .int s.total),
    ("accuracy", if s.total = 0 then .int 0 else .real (numberStyle.write s.accuracy.shortest)),
    ("results", .arr (s.outcomes.map Outcome.record))]

end RevenueOffice.Evaluation
