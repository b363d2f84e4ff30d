import RevenueOffice.Log.Entry
import RevenueOffice.Scoring

/-!
# Ranking and choosing a candidate

Candidates are ranked by score, highest first; candidates with equal scores keep their order, so
the first ranked candidate is the earliest one with the highest score. It is chosen unless its
score is below the confidence threshold while the query has more than one term.
-/

set_option autoImplicit false

namespace RevenueOffice

/-- Candidates by score, highest first, equal scores in their given order. -/
def rank (cs : List Candidate) : List Candidate := cs.mergeSort fun a b => b.score ≤ a.score

/-- Whether a best score is too low to be trusted: below the threshold, for a query of more than
one term. -/
def tooLow (minConfidence score : Int) (t : Terms) : Bool :=
  score < minConfidence && 1 < t.all.length

def singleTermFallback (ranked : List Candidate) (term : String) :
    Option Candidate × List Log.Entry :=
  match ranked.find? fun c =>
      (c.office.nameTokens.contains term || c.office.normalRegion == some term) && 0 < c.score with
  | some c =>
    (some c, [Log.info ("Re-evaluating for single term '" ++ term ++ "', found candidate: " ++
      c.office.name ++ " with score " ++ toString c.score)])
  | none => (none, [])

/-- The first of ranked candidates unless it is too low, with the entry that reports a rejection.
A rejected query of a single term would fall back on `singleTermFallback`; a query is only
rejected for having more than one term, so it never does. -/
def chooseRanked (ranked : List Candidate) (t : Terms) (minConfidence : Int) :
    Option Candidate × List Log.Entry :=
  match ranked with
  | [] => (none, [])
  | best :: _ =>
    if tooLow minConfidence best.score t then
      let rejected := Log.info ("Best candidate score " ++ toString best.score ++
        " too low for confidence with multiple terms.")
      match t.all with
      | [term] =>
        let (found, notes) := singleTermFallback ranked term
        (found, rejected :: notes)
      | _ => (none, [rejected])
    else (some best, [])

def choose (cs : List Candidate) (t : Terms) (minConfidence : Int) : Option Candidate :=
  (chooseRanked (rank cs) t minConfidence).1

end RevenueOffice
