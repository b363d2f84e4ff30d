import RevenueOffice.Proofs.Ranking
import RevenueOffice.Resolution

/-!
# What a resolution decides

The stages of a resolution read as a specification. An empty register, a missing or empty query,
a query without terms and a query that no office scores above the floor each end it with their
own reason; otherwise the first office of highest score, in register order, is chosen, unless it
scores below the threshold for a query of several terms.

Resolving fails only when the leading count keeps no candidate: a count of zero, or a negative
count that drops every candidate. Otherwise it decides as the specification says.
-/

set_option autoImplicit false

namespace RevenueOffice

/-- What a resolution decides: the query, why it ended, the candidate chosen and the terms read. -/
structure Outcome where
  query : Option String
  reason : Reason
  chosen : Option Candidate
  terms : Option Terms

def Resolution.outcome (res : Resolution) : Outcome := ⟨res.query, res.reason, res.chosen, res.terms⟩

theorem leadingPart_eq_nil_iff {α : Type} (xs : List α) (n : Int) :
    leadingPart xs n = [] ↔ xs = [] ∨ n = 0 ∨ (xs.length : Int) ≤ -n := by
  unfold leadingPart
  split <;> rw [List.take_eq_nil_iff, ← List.length_eq_zero_iff] <;> omega

namespace Resolver

variable (r : Resolver)

/-- The candidates for a query's terms: the offices that score above the floor, in register order. -/
def viable (t : Terms) : List Candidate := r.scorer.candidates r.register.offices t r.floor

/-- The outcome that the stages of a resolution call for. -/
def expected (query : Option String) : Outcome :=
  if r.register.isEmpty then ⟨query, .noReferenceData, none, none⟩ else
  match query with
  | none | some "" => ⟨query, .noLocality, none, none⟩
  | some q =>
    let t := Terms.parse q
    if t.all = [] then ⟨query, .noTerms, none, some t⟩ else
    match firstBest (r.viable t) with
    | none => ⟨query, .noCandidates, none, some t⟩
    | some b =>
      if b.score < r.minConfidence ∧ 1 < t.all.length then ⟨query, .lowConfidence, none, some t⟩
      else ⟨query, .matched, some b, some t⟩

/-- Whether resolving the query fails: some office scores above the floor, but the leading count
keeps no candidate. -/
def fails : Option String → Bool
  | none => false
  | some q =>
    let n := (r.viable (Terms.parse q)).length
    !r.register.isEmpty && q != "" && !(Terms.parse q).isEmpty && 0 < n &&
      (r.leadingCount == 0 || decide ((n : Int) ≤ -r.leadingCount))

/-! ## The stages -/

theorem resolve_of_register_isEmpty {query : Option String} (h : r.register.isEmpty = true) :
    Prod.fst <$> r.resolve query = .ok ⟨query, .noReferenceData, none, none, []⟩ := by
  simp [resolve, h]

theorem resolve_none (h : r.register.isEmpty = false) :
    Prod.fst <$> r.resolve none = .ok ⟨none, .noLocality, none, none, []⟩ := by
  simp [resolve, h]

theorem resolve_empty (h : r.register.isEmpty = false) :
    Prod.fst <$> r.resolve (some "") = .ok ⟨some "", .noLocality, none, none, []⟩ := by
  simp [resolve, h]

theorem resolve_of_terms_isEmpty {q : String} (hr : r.register.isEmpty = false) (hq : q ≠ "")
    (ht : (Terms.parse q).isEmpty = true) :
    Prod.fst <$> r.resolve (some q) = .ok ⟨some q, .noTerms, none, some (Terms.parse q), []⟩ := by
  simp [resolve, hr, ht]

theorem resolve_of_viable_eq_nil {q : String} (hr : r.register.isEmpty = false) (hq : q ≠ "")
    (ht : (Terms.parse q).isEmpty = false) (hc : r.viable (Terms.parse q) = []) :
    Prod.fst <$> r.resolve (some q) =
      .ok ⟨some q, .noCandidates, none, some (Terms.parse q), []⟩ := by
  simp only [viable] at hc
  simp [resolve, hr, ht, hc, rank]

theorem resolve_of_viable_ne_nil {q : String} (hr : r.register.isEmpty = false) (hq : q ≠ "")
    (ht : (Terms.parse q).isEmpty = false) (hc : r.viable (Terms.parse q) ≠ []) :
    Prod.fst <$> r.resolve (some q) =
      let t := Terms.parse q
      let leading := leadingPart (rank (r.viable t)) r.leadingCount
      let choice := (chooseRanked (rank (r.viable t)) t r.minConfidence).1
      if leading = [] then .error .noLeadingCandidate
      else .ok ⟨some q, if choice.isSome then .matched else .lowConfidence, choice, some t, leading⟩ := by
  have hrank : (rank (r.viable (Terms.parse q))).isEmpty = false := by
    simpa [rank_eq_nil_iff] using hc
  simp only [viable] at hrank
  simp only [resolve, hr, ht, hrank, viable, Bool.false_eq_true, ↓reduceIte]
  split
  · next hlead => simp [hlead]
  · next best rest hlead =>
    simp only [hlead, reduceCtorEq, ↓reduceIte]
    split <;> next hchoice => simp [hchoice]

/-! ## The specification at the last stage -/

theorem fails_of_viable_ne_nil {q : String} (hr : r.register.isEmpty = false) (hq : q ≠ "")
    (ht : (Terms.parse q).isEmpty = false) (hc : r.viable (Terms.parse q) ≠ []) :
    r.fails (some q) = true ↔
      leadingPart (rank (r.viable (Terms.parse q))) r.leadingCount = [] := by
  have hlen : 0 < (r.viable (Terms.parse q)).length := List.length_pos_iff.2 hc
  rw [leadingPart_eq_nil_iff, (rank_perm _).length_eq, rank_eq_nil_iff]
  simp [fails, hr, hq, ht, hc, hlen]

theorem expected_of_viable_ne_nil {q : String} (hr : r.register.isEmpty = false) (hq : q ≠ "")
    (ht : (Terms.parse q).isEmpty = false) (hc : r.viable (Terms.parse q) ≠ []) :
    r.expected (some q) =
      let t := Terms.parse q
      let choice := (firstBest (r.viable t)).filter fun b => !tooLow r.minConfidence b.score t
      ⟨some q, if choice.isSome then .matched else .lowConfidence, choice, some t⟩ := by
  have hall : (Terms.parse q).all ≠ [] := by simpa [Terms.isEmpty] using ht
  obtain ⟨b, hb⟩ : ∃ b, firstBest (r.viable (Terms.parse q)) = some b := by
    rw [← head?_rank]
    cases h : rank (r.viable (Terms.parse q)) with
    | nil => exact absurd ((rank_eq_nil_iff _).1 h) hc
    | cons b _ => exact ⟨b, rfl⟩
  simp only [expected, hr, hall, hb, Bool.false_eq_true, ↓reduceIte]
  by_cases hlow : b.score < r.minConfidence ∧ 1 < (Terms.parse q).all.length <;>
    simp [hlow, tooLow, Option.filter]

theorem outcome_resolve (query : Option String) :
    Resolution.outcome <$> (Prod.fst <$> r.resolve query) =
      if r.fails query then .error .noLeadingCandidate else .ok (r.expected query) := by
  cases hr : r.register.isEmpty
  · cases query with
    | none => simp [resolve_none r hr, fails, expected, hr, Resolution.outcome]
    | some q =>
      by_cases hq : q = ""
      · subst hq
        simp [resolve_empty r hr, fails, expected, hr, Resolution.outcome]
      cases ht : (Terms.parse q).isEmpty
      · by_cases hc : r.viable (Terms.parse q) = []
        · have hall : (Terms.parse q).all ≠ [] := by simpa [Terms.isEmpty] using ht
          simp [resolve_of_viable_eq_nil r hr hq ht hc, fails, expected, hr, hall, hc,
            firstBest, Resolution.outcome]
        · rw [resolve_of_viable_ne_nil r hr hq ht hc, expected_of_viable_ne_nil r hr hq ht hc]
          simp only [chooseRanked_fst, head?_rank]
          by_cases hlead : leadingPart (rank (r.viable (Terms.parse q))) r.leadingCount = []
          · simp [hlead, (fails_of_viable_ne_nil r hr hq ht hc).2 hlead]
          · have hfails : r.fails (some q) = false := by
              simpa using mt (fails_of_viable_ne_nil r hr hq ht hc).1 hlead
            simp [hlead, hfails, Resolution.outcome]
      · have hall : (Terms.parse q).all = [] := by simpa [Terms.isEmpty] using ht
        simp [resolve_of_terms_isEmpty r hr hq ht, fails, expected, hr, ht, hall,
          Resolution.outcome]
  · cases query <;>
      simp [resolve_of_register_isEmpty r hr, fails, expected, hr, Resolution.outcome]

/-! ## Resolving with a leading count of one or more -/

theorem fails_eq_false_of_one_le (query : Option String) (hcount : 1 ≤ r.leadingCount) :
    r.fails query = false := by
  cases query with
  | none => rfl
  | some q =>
    have hzero : (r.leadingCount == 0) = false := by simp; omega
    have hdrop : decide (((r.viable (Terms.parse q)).length : Int) ≤ -r.leadingCount) = false := by
      simp; omega
    simp [fails, hzero, hdrop]

theorem expected_matched_iff (query : Option String) :
    (r.expected query).reason = .matched ↔ (r.expected query).chosen.isSome := by
  unfold expected
  -- one split for each stage that can end the resolution
  split
  · simp
  · split
    · simp
    · simp
    · dsimp only
      split
      · simp
      · split
        · simp
        · split <;> simp

/-- With a leading count of one or more, resolving a query never fails, and it decides as the
specification says: the reason, the candidate chosen and the terms read are those of
`expected`, and a match is reported exactly when a candidate is chosen. -/
theorem resolve_eq_expected (query : Option String) (hcount : 1 ≤ r.leadingCount) :
    ∃ res logs, r.resolve query = .ok (res, logs) ∧ res.outcome = r.expected query ∧
      (res.reason = .matched ↔ res.chosen.isSome) := by
  have h := outcome_resolve r query
  rw [fails_eq_false_of_one_le r query hcount] at h
  cases hres : r.resolve query with
  | error e => simp [hres] at h
  | ok p =>
    obtain ⟨res, logs⟩ := p
    have hout : res.outcome = r.expected query := by simpa [hres] using h
    refine ⟨res, logs, rfl, hout, ?_⟩
    have hmatched := expected_matched_iff r query
    rw [← hout] at hmatched
    exact hmatched

theorem resolve_eq_expected_on_one_office :
    let r : Resolver := { register := .ofRows [⟨some "0318", some "000000000001",
      some "УГД по Есильскому району", some "Акмолинская область"⟩] }
    1 ≤ r.leadingCount ∧ ∃ res logs, r.resolve (some "Есиль") = .ok (res, logs) ∧
      res.outcome = r.expected (some "Есиль") ∧ (res.reason = .matched ↔ res.chosen.isSome) :=
  ⟨by decide, resolve_eq_expected _ _ (by decide)⟩

/-! ## When resolving fails -/

theorem fails_iff (query : Option String) :
    r.fails query = true ↔
      r.register.isEmpty = false ∧ ∃ q, query = some q ∧ q ≠ "" ∧ (Terms.parse q).all ≠ [] ∧
        1 ≤ (r.viable (Terms.parse q)).length ∧
        (r.leadingCount = 0 ∨ ((r.viable (Terms.parse q)).length : Int) ≤ -r.leadingCount) := by
  cases query with
  | none => simp [fails]
  | some q =>
    simp only [fails, Bool.and_eq_true, Bool.not_eq_true', bne_iff_ne, ne_eq, Bool.or_eq_true,
      beq_iff_eq, decide_eq_true_eq, Terms.isEmpty, List.isEmpty_eq_false_iff, Option.some.injEq,
      exists_eq_left', List.length_pos_iff]
    constructor
    · rintro ⟨⟨⟨⟨hr, hq⟩, ht⟩, hc⟩, hcount⟩
      exact ⟨hr, hq, ht, List.length_pos_iff.2 hc, hcount⟩
    · rintro ⟨hr, hq, ht, hc, hcount⟩
      exact ⟨⟨⟨⟨hr, hq⟩, ht⟩, List.length_pos_iff.1 hc⟩, hcount⟩

theorem resolve_eq_error_of_fails {query : Option String} (h : r.fails query = true) :
    r.resolve query = .error .noLeadingCandidate := by
  have hout := outcome_resolve r query
  rw [if_pos h] at hout
  cases hres : r.resolve query with
  | error e => cases e; rfl
  | ok p => simp [hres] at hout

/-- Resolving fails, with the error of an empty list of leading candidates, exactly when the
register has offices, the query has terms, and some office scores above the floor while the
leading count is zero or a negative count that drops every candidate. -/
theorem resolve_eq_error_iff (query : Option String) :
    r.resolve query = .error .noLeadingCandidate ↔
      r.register.isEmpty = false ∧ ∃ q, query = some q ∧ q ≠ "" ∧ (Terms.parse q).all ≠ [] ∧
        1 ≤ (r.viable (Terms.parse q)).length ∧
        (r.leadingCount = 0 ∨ ((r.viable (Terms.parse q)).length : Int) ≤ -r.leadingCount) := by
  rw [← fails_iff]
  constructor
  · intro h
    have hout := outcome_resolve r query
    rw [h] at hout
    cases hf : r.fails query
    · simp [hf] at hout
    · rfl
  · exact resolve_eq_error_of_fails r

/-- With a leading count of zero, resolving fails on a query that one office matches, so failure
is not confined to candidate counts between one and the negated leading count. -/
theorem resolve_fails_with_zero_count :
    let r : Resolver := { register := .ofRows [⟨some "0318", some "000000000001",
      some "УГД по Есильскому району", some "Акмолинская область"⟩], leadingCount := 0 }
    r.resolve (some "Есиль") = .error .noLeadingCandidate ∧
      (r.viable (Terms.parse "Есиль")).length = 1 := by
  intro r
  -- the scoring is evaluated once, for the count of candidates
  have hlen : (r.viable (Terms.parse "Есиль")).length = 1 := by decide +kernel
  have hall : (Terms.parse "Есиль").all ≠ [] := by decide +kernel
  have hfails : r.fails (some "Есиль") = true :=
    (fails_iff r _).2 ⟨by decide, "Есиль", rfl, by decide, hall, by omega, .inl rfl⟩
  exact ⟨resolve_eq_error_of_fails r hfails, hlen⟩

end Resolver

end RevenueOffice
