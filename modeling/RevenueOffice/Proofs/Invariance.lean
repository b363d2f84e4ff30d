import RevenueOffice.Proofs.Lowercase
import RevenueOffice.Proofs.Outcome
import RevenueOffice.Proofs.Scores

/-!
# What a resolution does not depend on

Scores read each kind of term as a set, and ranking and choosing read only offices and scores, so
the decision of a resolution depends only on the set of a query's parts. Parts are cut before any
lowercasing and the connectives between them are matched as written, so lowercasing a query keeps
its terms and its decision exactly when it does not change where the query splits.
-/

set_option autoImplicit false

namespace RevenueOffice

/-- What a resolution decides, in offices and scores: why it ended, the office chosen with its
score, and the leading offices with their scores. -/
def Resolution.decision (res : Resolution) :
    Reason × Option (Office × Int) × List (Office × Int) :=
  (res.reason, res.chosen.map Candidate.standing, res.leading.map Candidate.standing)

theorem map_leadingPart {α β : Type} (f : α → β) (xs : List α) (n : Int) :
    (leadingPart xs n).map f = leadingPart (xs.map f) n := by
  unfold leadingPart
  split <;> simp [List.map_take]

theorem map_standing_chooseRanked (ranked : List Candidate) (t : Terms) (minConfidence : Int) :
    (chooseRanked ranked t minConfidence).1.map Candidate.standing =
      (ranked.map Candidate.standing).head?.filter
        fun x => !(decide (x.2 < minConfidence) && decide (1 < t.all.length)) := by
  rw [chooseRanked_fst]
  cases ranked with
  | nil => rfl
  | cons best rest =>
    by_cases h : tooLow minConfidence best.score t <;>
      simp_all [tooLow, Option.filter, Candidate.standing]

theorem eq_nil_iff_of_map_eq {α β : Type} {f : α → β} {xs ys : List α}
    (h : xs.map f = ys.map f) : xs = [] ↔ ys = [] :=
  ⟨fun hx => by simpa [hx] using h.symm, fun hy => by simpa [hy] using h⟩

theorem decision_lastStage_congr {q₁ q₂ : String} {t₁ t₂ : Terms} {ranked₁ ranked₂ : List Candidate}
    (count minConfidence : Int)
    (hranked : ranked₁.map Candidate.standing = ranked₂.map Candidate.standing)
    (hlen : t₁.all.length = t₂.all.length) :
    Resolution.decision <$> (if leadingPart ranked₁ count = [] then .error .noLeadingCandidate
      else .ok ⟨some q₁, if (chooseRanked ranked₁ t₁ minConfidence).1.isSome then .matched
        else .lowConfidence, (chooseRanked ranked₁ t₁ minConfidence).1, some t₁,
        leadingPart ranked₁ count⟩ : Except ResolveError Resolution) =
    Resolution.decision <$> (if leadingPart ranked₂ count = [] then .error .noLeadingCandidate
      else .ok ⟨some q₂, if (chooseRanked ranked₂ t₂ minConfidence).1.isSome then .matched
        else .lowConfidence, (chooseRanked ranked₂ t₂ minConfidence).1, some t₂,
        leadingPart ranked₂ count⟩ : Except ResolveError Resolution) := by
  have hlead : (leadingPart ranked₁ count).map Candidate.standing =
      (leadingPart ranked₂ count).map Candidate.standing := by
    rw [map_leadingPart, map_leadingPart, hranked]
  have hchoice : (chooseRanked ranked₁ t₁ minConfidence).1.map Candidate.standing =
      (chooseRanked ranked₂ t₂ minConfidence).1.map Candidate.standing := by
    rw [map_standing_chooseRanked, map_standing_chooseRanked, hranked, hlen]
  -- whether a candidate is chosen is read from the standings as well
  have hsome := congrArg Option.isSome hchoice
  simp only [Option.isSome_map] at hsome
  by_cases hl : leadingPart ranked₁ count = []
  · simp [hl, (eq_nil_iff_of_map_eq hlead).1 hl]
  · simp [hl, mt (eq_nil_iff_of_map_eq hlead).2 hl, Resolution.decision, hsome, hchoice, hlead]

namespace Resolver

variable (r : Resolver)

theorem decision_resolve_congr {q₁ q₂ : String} (hq₁ : q₁ ≠ "") (hq₂ : q₂ ≠ "")
    (h : (Terms.parse q₁).Alike (Terms.parse q₂)) :
    (fun x => x.1.decision) <$> r.resolve (some q₁) =
      (fun x => x.1.decision) <$> r.resolve (some q₂) := by
  have hcomp : ∀ q, (fun x => x.1.decision) <$> r.resolve (some q) =
      Resolution.decision <$> (Prod.fst <$> r.resolve (some q)) := by
    intro q
    cases r.resolve (some q) <;> rfl
  have hempty : (Terms.parse q₁).isEmpty = (Terms.parse q₂).isEmpty := h.all.isEmpty_eq
  have hviable : (r.viable (Terms.parse q₁)).map Candidate.standing =
      (r.viable (Terms.parse q₂)).map Candidate.standing :=
    Scorer.map_standing_candidates _ _ _ h
  rw [hcomp, hcomp]
  -- the two queries pass or stop at the same stage, since each test reads only standings
  cases hr : r.register.isEmpty
  · cases ht : (Terms.parse q₁).isEmpty
    · have ht₂ : (Terms.parse q₂).isEmpty = false := hempty ▸ ht
      by_cases hc : r.viable (Terms.parse q₁) = []
      · rw [resolve_of_viable_eq_nil r hr hq₁ ht hc,
          resolve_of_viable_eq_nil r hr hq₂ ht₂ ((eq_nil_iff_of_map_eq hviable).1 hc)]
        rfl
      · rw [resolve_of_viable_ne_nil r hr hq₁ ht hc,
          resolve_of_viable_ne_nil r hr hq₂ ht₂ (mt (eq_nil_iff_of_map_eq hviable).2 hc)]
        exact decision_lastStage_congr _ _ (map_standing_rank_congr hviable) h.all.length_eq
    · have ht₂ : (Terms.parse q₂).isEmpty = true := hempty ▸ ht
      rw [resolve_of_terms_isEmpty r hr hq₁ ht, resolve_of_terms_isEmpty r hr hq₂ ht₂]
      rfl
  · rw [resolve_of_register_isEmpty r hr, resolve_of_register_isEmpty r hr]
    rfl

/-- A query's decision depends only on the set of its parts: listing them in another order,
repeating some, or writing other separators and blanks around them changes neither the reason,
nor the office chosen with its score, nor the leading offices with their scores. -/
theorem resolve_decision_of_same_parts {q₁ q₂ : String} (hq₁ : q₁ ≠ "") (hq₂ : q₂ ≠ "")
    (hparts : ∀ p, p ∈ Query.parts q₁ ↔ p ∈ Query.parts q₂) :
    (fun x => x.1.decision) <$> r.resolve (some q₁) =
      (fun x => x.1.decision) <$> r.resolve (some q₂) :=
  decision_resolve_congr r hq₁ hq₂ (Terms.parse_alike_of_parts hparts)

theorem resolve_decision_of_reordered_parts :
    let r : Resolver := { register := .ofRows [⟨some "0318", some "000000000001",
      some "УГД по Есильскому району", some "Акмолинская область"⟩,
      ⟨some "6205", some "000000000002", some "УГД по району Есиль", some "Астана"⟩] }
    "Астана, Есиль" ≠ "" ∧ "Есиль; Астана и  Есиль" ≠ "" ∧
      (∀ p, p ∈ Query.parts "Астана, Есиль" ↔ p ∈ Query.parts "Есиль; Астана и  Есиль") ∧
      (fun x => x.1.decision) <$> r.resolve (some "Астана, Есиль") =
        (fun x => x.1.decision) <$> r.resolve (some "Есиль; Астана и  Есиль") := by
  have h₁ : Query.parts "Астана, Есиль" = ["Астана", "Есиль"] := by decide +kernel
  have h₂ : Query.parts "Есиль; Астана и  Есиль" = ["Есиль", "Астана", "Есиль"] := by
    decide +kernel
  have hparts : ∀ p, p ∈ Query.parts "Астана, Есиль" ↔ p ∈ Query.parts "Есиль; Астана и  Есиль" := by
    intro p
    rw [h₁, h₂]
    simp only [List.mem_cons, List.not_mem_nil, or_false]
    constructor
    · rintro (rfl | rfl) <;> simp
    · rintro (rfl | rfl | rfl) <;> simp
  exact ⟨by decide, by decide, hparts, resolve_decision_of_same_parts _ (by decide) (by decide) hparts⟩

end Resolver

/-! ## Letter case -/

theorem lowercase_ne_empty {s : String} (h : s ≠ "") : Text.lowercase s ≠ "" := by
  obtain ⟨c, cs, hcs⟩ := List.exists_cons_of_ne_nil (mt String.toList_eq_nil_iff.1 h)
  -- every character writes at least one character
  have hne : Text.lowerFrom false s.toList ≠ [] := by
    rw [hcs, Text.lowerFrom]
    split_ifs <;> simp
  simpa [Text.lowercase, ← String.toList_eq_nil_iff] using hne

theorem contributions_lowercase {s : String}
    (hparts : Query.parts (Text.lowercase s) = (Query.parts s).map Text.lowercase) :
    Query.contributions (Text.lowercase s) = Query.contributions s := by
  have hchars : Query.partChars (Text.lowercase s).toList =
      (Query.partChars s.toList).map (Text.lowerFrom false) := by
    apply List.map_injective_iff.2 fun a b h => String.ofList_inj.1 h
    simpa [Query.parts, Text.lowercase, Function.comp_def] using hparts
  simp only [Query.contributions, hchars, List.map_map, Function.comp_def, Text.lowerFrom_lowerFrom]

/-- Lowercasing a query keeps its region, district, general and all terms, and what resolving it
decides, whenever lowercasing does not change where the query splits into parts. -/
theorem terms_of_lowercase_of_parts (s : String)
    (hparts : Query.parts (Text.lowercase s) = (Query.parts s).map Text.lowercase) :
    (Terms.parse (Text.lowercase s)).regions = (Terms.parse s).regions ∧
      (Terms.parse (Text.lowercase s)).districts = (Terms.parse s).districts ∧
      (Terms.parse (Text.lowercase s)).general = (Terms.parse s).general ∧
      (Terms.parse (Text.lowercase s)).all = (Terms.parse s).all ∧
      ∀ r : Resolver, (fun x => x.1.decision) <$> r.resolve (some (Text.lowercase s)) =
        (fun x => x.1.decision) <$> r.resolve (some s) := by
  have hparse := Terms.parse_eq_of_contributions (contributions_lowercase hparts)
  have halike : (Terms.parse (Text.lowercase s)).Alike (Terms.parse s) := by
    rw [hparse]
    exact ⟨.refl _, .refl _, .refl _, .refl _⟩
  rw [hparse]
  refine ⟨rfl, rfl, rfl, rfl, fun r => ?_⟩
  by_cases hs : s = ""
  · subst hs
    rfl
  · exact r.decision_resolve_congr (lowercase_ne_empty hs) hs halike

theorem terms_of_lowercase_of_parts_capitals :
    Query.parts (Text.lowercase "ГОРОД АСТАНА, РАЙОН ЕСИЛЬ") =
        (Query.parts "ГОРОД АСТАНА, РАЙОН ЕСИЛЬ").map Text.lowercase ∧
      (Terms.parse (Text.lowercase "ГОРОД АСТАНА, РАЙОН ЕСИЛЬ")).regions =
        (Terms.parse "ГОРОД АСТАНА, РАЙОН ЕСИЛЬ").regions ∧
      (Terms.parse (Text.lowercase "ГОРОД АСТАНА, РАЙОН ЕСИЛЬ")).districts =
        (Terms.parse "ГОРОД АСТАНА, РАЙОН ЕСИЛЬ").districts ∧
      (Terms.parse (Text.lowercase "ГОРОД АСТАНА, РАЙОН ЕСИЛЬ")).general =
        (Terms.parse "ГОРОД АСТАНА, РАЙОН ЕСИЛЬ").general ∧
      (Terms.parse (Text.lowercase "ГОРОД АСТАНА, РАЙОН ЕСИЛЬ")).all =
        (Terms.parse "ГОРОД АСТАНА, РАЙОН ЕСИЛЬ").all ∧
      ∀ r : Resolver, (fun x => x.1.decision) <$> r.resolve (some (Text.lowercase
          "ГОРОД АСТАНА, РАЙОН ЕСИЛЬ")) =
        (fun x => x.1.decision) <$> r.resolve (some "ГОРОД АСТАНА, РАЙОН ЕСИЛЬ") := by
  have hparts : Query.parts (Text.lowercase "ГОРОД АСТАНА, РАЙОН ЕСИЛЬ") =
      (Query.parts "ГОРОД АСТАНА, РАЙОН ЕСИЛЬ").map Text.lowercase := by
    decide +kernel
  exact ⟨hparts, terms_of_lowercase_of_parts _ hparts⟩

/-- A capitalised connective is no separator, while its lowercase form is: the query keeps one
part and reads the connective as a term, and its lowercase form splits into two parts. -/
theorem parse_capital_connective :
    (Terms.parse "АЛМАТЫ И БОСТАНДЫКСКИЙ").all = ["алматы", "и", "бостандыкский"] ∧
      (Terms.parse (Text.lowercase "АЛМАТЫ И БОСТАНДЫКСКИЙ")).all = ["алматы", "бостандыкский"] := by
  decide +kernel

end RevenueOffice
