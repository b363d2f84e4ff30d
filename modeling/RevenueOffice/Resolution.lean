import RevenueOffice.Office.Register
import RevenueOffice.Ranking
import RevenueOffice.Text.Quoted

/-!
# Resolving a query to an office

A query is resolved against a register in stages, each of which may end it with its own reason:
an empty register, a missing or empty query, a query without terms, no office above the floor,
and a best candidate that cannot be trusted. The leading candidates, as many as the resolver's
count says and counted from the end for a count below one, are kept with the outcome.
-/

set_option autoImplicit false

namespace RevenueOffice

inductive Reason where
  | noReferenceData
  | noLocality
  | noTerms
  | noCandidates
  | lowConfidence
  | matched
  deriving DecidableEq, Repr

def Reason.name : Reason → String
  | .noReferenceData => "no_reference_data"
  | .noLocality => "no_locality"
  | .noTerms => "no_terms"
  | .noCandidates => "no_candidates"
  | .lowConfidence => "low_confidence"
  | .matched => "matched"

structure Resolution where
  query : Option String
  reason : Reason
  chosen : Option Candidate := none
  terms : Option Terms := none
  leading : List Candidate := []

inductive ResolveError where
  | noLeadingCandidate

/-- A register with the settings that resolving against it uses. -/
structure Resolver where
  register : Register
  scorer : Scorer := {}
  minConfidence : Int := 50
  floor : Int := -100
  leadingCount : Int := 5

/-- The first `n` items of a list; a negative `n` leaves out the last `-n` items. -/
def leadingPart {α : Type} (xs : List α) (n : Int) : List α :=
  if 0 ≤ n then xs.take n.toNat else xs.take (xs.length - n.natAbs)

def Terms.describe (t : Terms) : String :=
  "\x7b'raw_input': " ++ Text.literal t.raw ++ ", 'region_terms': " ++ Text.literalList t.regions ++
  ", 'district_terms': " ++ Text.literalList t.districts ++ ", 'general_terms': " ++
  Text.literalList t.general ++ ", 'all_terms': " ++ Text.literalList t.all ++ "\x7d"

namespace Resolver

/-- Resolve a query, with the entries logged on the way. -/
def resolve (r : Resolver) (query : Option String) :
    Except ResolveError (Resolution × List Log.Entry) :=
  if r.register.isEmpty then
    .ok (⟨query, .noReferenceData, none, none, []⟩,
      [Log.warning "Tax office reference data not available."])
  else match query with
  | none | some "" =>
    .ok (⟨query, .noLocality, none, none, []⟩, [Log.warning "No locality name provided."])
  | some q =>
    let t := Terms.parse q
    let parsedEntry := Log.debug ("Parsed address input: " ++ t.describe)
    if t.isEmpty then
      .ok (⟨query, .noTerms, none, some t, []⟩,
        [parsedEntry, Log.warning "Locality name resulted in no searchable terms."])
    else
      let ranked := rank (r.scorer.candidates r.register.offices t r.floor)
      let leading := leadingPart ranked r.leadingCount
      if ranked.isEmpty then
        .ok (⟨query, .noCandidates, none, some t, []⟩,
          [parsedEntry, Log.info "No suitable tax office candidates found."])
      else match leading with
      | [] => .error .noLeadingCandidate
      | best :: _ =>
        let found := [parsedEntry,
          Log.info ("Best match: " ++ best.office.name ++ " (Code: " ++ best.office.codeText ++
            ", Score: " ++ toString best.score ++ ")"),
          Log.debug ("Best match trace: " ++ " | ".intercalate best.explain)]
        let (choice, notes) := chooseRanked ranked t r.minConfidence
        match choice with
        | none => .ok (⟨query, .lowConfidence, none, some t, leading⟩, found ++ notes)
        | some c => .ok (⟨query, .matched, some c, some t, leading⟩, found ++ notes)

def replaceRegister (r : Resolver) (t : Register) : Resolver × Log.Entry :=
  ({ r with register := t },
    Log.info ("Reference table replaced (" ++ toString t.size ++ " records)"))

end Resolver

end RevenueOffice
