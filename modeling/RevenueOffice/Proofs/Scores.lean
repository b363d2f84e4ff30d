import RevenueOffice.Proofs.Ranking
import RevenueOffice.Proofs.TermSets

/-!
# Scores read the terms as sets

Every stage of scoring either asks whether some term of a kind matches the office, or adds one
adjustment for each term of a kind that matches it. Reading the terms of each kind in another
order reorders the adjustments and their explanations but not their amounts, so an office scores
the same against alike terms, and the candidates of alike terms are the same offices with the same
scores.
-/

set_option autoImplicit false

namespace RevenueOffice

namespace Scorer

variable (s : Scorer) (o : Office) {t₁ t₂ : Terms}

@[simp] theorem adjust_delta (c : Criterion) (detail : String) : (s.adjust c detail).delta = s.weight c :=
  rfl

@[simp] theorem adjust_criterion (c : Criterion) (detail : String) :
    (s.adjust c detail).criterion = c :=
  rfl

@[simp] theorem reward_criterion (c : Criterion) (term detail : String) :
    (s.reward c term detail).criterion = c :=
  rfl

@[simp] theorem reward_delta (c : Criterion) (term detail : String) :
    (s.reward c term detail).delta = s.weight c * min (term.length : Int) s.lengthCap :=
  rfl

@[simp] theorem score_office (t : Terms) : (s.score o t).office = o := rfl

theorem regionStage_deltas (h : t₁.regions.Perm t₂.regions) :
    (s.regionStage o t₁).map (·.delta) = (s.regionStage o t₂).map (·.delta) := by
  -- only whether some region term occurs in the office's region decides the amount
  have hfound : ∀ g, (t₁.regions.find? (Text.occurs · g)).isSome =
      (t₂.regions.find? (Text.occurs · g)).isSome := by
    intro g
    rw [Bool.eq_iff_iff, List.find?_isSome, List.find?_isSome]
    exact exists_congr fun x => and_congr_left' h.mem_iff
  unfold regionStage
  rw [h.isEmpty_eq]
  split
  · rfl
  · cases o.normalRegion with
    | none => rfl
    | some g =>
      by_cases hg : g = ""
      · simp [hg]
      · have hsome := hfound g
        simp only [hg, ↓reduceIte]
        cases h₁ : t₁.regions.find? (Text.occurs · g) <;>
          cases h₂ : t₂.regions.find? (Text.occurs · g) <;>
          simp [h₁, h₂] at hsome ⊢

theorem districtStage_deltas (h : t₁.districts.Perm t₂.districts) :
    ((s.districtStage o t₁).map (·.delta)).Perm ((s.districtStage o t₂).map (·.delta)) := by
  have hhits := h.filter (overlaps · o.nameTokens)
  unfold districtStage
  rw [h.isEmpty_eq]
  split
  · rfl
  · split
    · rfl
    · -- each district term that overlaps the name adds one match
      cases h₁ : t₁.districts.filter (overlaps · o.nameTokens) with
      | nil =>
        rw [h₁] at hhits
        rw [List.Perm.eq_nil hhits.symm]
        simp
      | cons d ds =>
        cases h₂ : t₂.districts.filter (overlaps · o.nameTokens) with
        | nil =>
          rw [h₁, h₂] at hhits
          exact absurd (List.Perm.eq_nil hhits) (List.cons_ne_nil d ds)
        | cons e es =>
          rw [h₁, h₂] at hhits
          simpa [Function.comp_def] using hhits.map fun _ => s.weight .districtMatch

theorem generalNameStage_deltas (h : t₁.general.Perm t₂.general) :
    ((s.generalNameStage o t₁).map (·.delta)).Perm ((s.generalNameStage o t₂).map (·.delta)) := by
  unfold generalNameStage
  simp only [List.map_map]
  exact (h.filter _).map _

theorem generalRegionStage_deltas (hr : t₁.regions.Perm t₂.regions)
    (h : t₁.general.Perm t₂.general) :
    ((s.generalRegionStage o t₁).map (·.delta)).Perm
      ((s.generalRegionStage o t₂).map (·.delta)) := by
  unfold generalRegionStage
  rw [hr.isEmpty_eq]
  split
  · rfl
  · cases o.normalRegion with
    | none => rfl
    | some g =>
      by_cases hg : g = ""
      · simp [hg]
      · simp only [hg, ↓reduceIte, List.map_map]
        exact (h.filter _).map _

theorem adjustments_deltas (h : t₁.Alike t₂) :
    ((s.adjustments o t₁).map (·.delta)).Perm ((s.adjustments o t₂).map (·.delta)) := by
  simp only [adjustments, List.map_append]
  rw [regionStage_deltas s o h.regions]
  exact (((List.Perm.refl _).append (districtStage_deltas s o h.districts)).append
    (generalNameStage_deltas s o h.general)).append
      (generalRegionStage_deltas s o h.regions h.general)

theorem score_score_of_alike (h : t₁.Alike t₂) : (s.score o t₁).score = (s.score o t₂).score :=
  (adjustments_deltas s o h).foldl_eq' (fun x _ y _ z => by omega) 0

/-- Alike terms have the same candidates: the same offices with the same scores, in register
order. -/
theorem map_standing_candidates (offices : List Office) (floor : Int) (h : t₁.Alike t₂) :
    (s.candidates offices t₁ floor).map Candidate.standing =
      (s.candidates offices t₂ floor).map Candidate.standing := by
  induction offices with
  | nil => rfl
  | cons o os ih =>
    have hscore := score_score_of_alike s o h
    simp only [candidates, List.map_cons, List.filter_cons, hscore] at ih ⊢
    split
    · simp only [List.map_cons, ih, Candidate.standing, score_office, hscore]
    · exact ih

end Scorer

end RevenueOffice
