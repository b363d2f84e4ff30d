import Mathlib
import RevenueOffice.Proofs.Scores

/-!
# The adjustments of a score

Scoring an office adds adjustments stage by stage, and its score is the sum of their amounts.
What each stage calls for is written here directly from its rule, as criteria with amounts
(`regionCalls` to `generalRegionCalls`). The main statement says that scoring adds exactly those,
in order, for every weight and cap, negative ones included, every office and all terms, also
terms the parser would never read.
-/

set_option autoImplicit false

namespace RevenueOffice

def Adjustment.entry (a : Adjustment) : Criterion × Int := (a.criterion, a.delta)

namespace Scorer

variable (s : Scorer) (o : Office) (t : Terms)

def regionCalls : List (Criterion × Int) :=
  if t.regions = [] then []
  else if o.normalRegion.any fun g => g != "" && t.regions.any (Text.occurs · g) then
    [(.regionMatch, s.weight .regionMatch)]
  else [(.regionMismatch, s.weight .regionMismatch)]

def districtCalls : List (Criterion × Int) :=
  if t.districts = [] then
    (if o.isDistrict then [(.unexpectedDistrict, s.weight .unexpectedDistrict)] else [])
  else if !o.isDistrict then [(.notDistrictOffice, s.weight .notDistrictOffice)]
  else match t.districts.filter (overlaps · o.nameTokens) with
    | [] => [(.districtMismatch, s.weight .districtMismatch)]
    | hits => hits.map fun _ => (.districtMatch, s.weight .districtMatch)

def generalNameCalls : List (Criterion × Int) :=
  (t.general.filter (overlaps · o.nameTokens)).map fun g =>
    (.generalNameMatch, s.weight .generalNameMatch * min (g.length : Int) s.lengthCap)

def generalRegionCalls : List (Criterion × Int) :=
  if t.regions = [] then
    match o.normalRegion with
    | some g =>
      if g = "" then []
      else (t.general.filter (Text.occurs · g)).map fun term =>
        (.generalRegionMatch, s.weight .generalRegionMatch * min (term.length : Int) s.lengthCap)
    | none => []
  else []

theorem regionStage_entries : (s.regionStage o t).map Adjustment.entry = s.regionCalls o t := by
  unfold regionStage regionCalls
  by_cases hr : t.regions = []
  · simp [hr]
  have hne : t.regions.isEmpty = false := by simpa using hr
  rw [hne, if_neg hr]
  cases hg : o.normalRegion with
  | none => simp [Adjustment.entry]
  | some g =>
    by_cases hge : g = ""
    · simp [hge, Adjustment.entry]
    -- the first region term found in the region decides the match; any one would do
    cases hf : t.regions.find? (Text.occurs · g) with
    | none =>
      have hany : t.regions.any (Text.occurs · g) = false := by
        simpa [List.find?_eq_none] using hf
      simp [hge, hf, hany, Adjustment.entry]
    | some r =>
      have hocc : Text.occurs r g = true := by simpa using List.find?_some hf
      have hany : t.regions.any (Text.occurs · g) = true :=
        List.any_eq_true.2 ⟨r, List.mem_of_find?_eq_some hf, hocc⟩
      simp [hge, hf, hany, Adjustment.entry]

theorem districtStage_entries :
    (s.districtStage o t).map Adjustment.entry = s.districtCalls o t := by
  unfold districtStage districtCalls
  by_cases hd : t.districts = []
  · cases o.isDistrict <;> simp [hd, Adjustment.entry]
  have hne : t.districts.isEmpty = false := by simpa using hd
  rw [hne, if_neg hd]
  cases o.isDistrict with
  | false => simp [Adjustment.entry]
  | true =>
    -- the matching district terms decide between one mismatch and a match for each
    cases t.districts.filter (overlaps · o.nameTokens) with
    | nil => simp [Adjustment.entry]
    | cons d ds => simp [Adjustment.entry, Function.comp_def]

theorem generalNameStage_entries :
    (s.generalNameStage o t).map Adjustment.entry = s.generalNameCalls o t := by
  simp [generalNameStage, generalNameCalls, Adjustment.entry, Function.comp_def]

theorem generalRegionStage_entries :
    (s.generalRegionStage o t).map Adjustment.entry = s.generalRegionCalls o t := by
  unfold generalRegionStage generalRegionCalls
  by_cases hr : t.regions = []
  · simp only [hr, List.isEmpty_nil, Bool.not_true, Bool.false_eq_true, ↓reduceIte]
    cases o.normalRegion with
    | none => rfl
    | some g =>
      by_cases hge : g = ""
      · simp [hge]
      · simp [hge, Adjustment.entry, Function.comp_def]
  · have hne : t.regions.isEmpty = false := by simpa using hr
    simp [hne, hr]

/-- The score of an office is the sum of the amounts of its adjustments, and the adjustments are,
in order, what the region, district, general name and general region stages call for, for every
weight and cap and every terms. -/
theorem score_adjustments_by_stage :
    (s.score o t).score = ((s.score o t).adjustments.map (·.delta)).sum ∧
    (s.score o t).adjustments.map Adjustment.entry =
      s.regionCalls o t ++ s.districtCalls o t ++ s.generalNameCalls o t ++
        s.generalRegionCalls o t := by
  refine ⟨?_, ?_⟩
  · -- the score is the left fold of the amounts from zero
    simp only [score, List.sum_eq_foldl]
  · rw [← regionStage_entries, ← districtStage_entries, ← generalNameStage_entries,
      ← generalRegionStage_entries]
    simp only [score, adjustments, List.map_append]

end Scorer

end RevenueOffice
