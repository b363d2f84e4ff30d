import Mathlib
import RevenueOffice.Proofs.Adjustments
import RevenueOffice.Proofs.TermShape

/-!
# The region of a query and the region of an office

A query that names one region reads the normal name of that region as its region term, and an
office built with that region keeps the same normal name, so the office's region matches. The two
sides trim and lowercase in different orders; they agree because lowercasing twice changes nothing
and a blank, being its own lowercase form and neither cased nor case-ignorable, lets lowercasing
commute with trimming.
-/

set_option autoImplicit false

namespace RevenueOffice

namespace Text

def blanksCaseless : Bool :=
  blankChars.all fun b =>
    simpleLower b == b && b != 'İ' && b != 'Σ' && !isCased b && !isCaseIgnorable b

theorem blanksCaseless_eq_true : blanksCaseless = true := by decide +kernel

theorem caseless_of_isBlank {b : Char} (hb : isBlank b = true) :
    IsLowered b ∧ isCased b = false ∧ isCaseIgnorable b = false := by
  have h := List.all_eq_true.1 blanksCaseless_eq_true b (by simpa [isBlank] using hb)
  simp only [Bool.and_eq_true, beq_iff_eq, bne_iff_ne, ne_eq, Bool.not_eq_eq_eq_not,
    Bool.not_true] at h
  obtain ⟨⟨⟨⟨hlow, hdot⟩, hsigma⟩, hcased⟩, hign⟩ := h
  exact ⟨⟨hlow, hdot, hsigma⟩, hcased, hign⟩

theorem followedByCased_append_blank {b : Char} (hb : isBlank b = true) (u v : List Char) :
    followedByCased (u ++ b :: v) = followedByCased u := by
  obtain ⟨-, hcased, hign⟩ := caseless_of_isBlank hb
  induction u with
  | nil => simp [followedByCased, hign, hcased]
  | cons c u ih =>
    by_cases hc : isCaseIgnorable c = true
    · simpa [followedByCased, List.dropWhile_cons, hc] using ih
    · simp [followedByCased, hc]

theorem lowerFrom_append_blank {b : Char} (hb : isBlank b = true) (afterCased : Bool)
    (u v : List Char) :
    lowerFrom afterCased (u ++ b :: v) = lowerFrom afterCased u ++ b :: lowerFrom false v := by
  obtain ⟨⟨hlow, hdot, hsigma⟩, hcased, hign⟩ := caseless_of_isBlank hb
  induction u generalizing afterCased with
  | nil => simp [lowerFrom, hlow, hdot, hsigma, hcased, hign]
  | cons c u ih =>
    simp only [List.cons_append, lowerFrom, followedByCased_append_blank hb, ih,
      List.append_assoc]

theorem lowerFrom_blanks_append {bs : List Char} (hbs : ∀ b ∈ bs, isBlank b = true)
    (v : List Char) : lowerFrom false (bs ++ v) = bs ++ lowerFrom false v := by
  induction bs with
  | nil => rfl
  | cons b bs ih =>
    rw [List.cons_append, ← List.nil_append (b :: _), lowerFrom_append_blank (hbs b (by simp)),
      ih fun c hc => hbs c (List.mem_cons_of_mem b hc)]
    rfl

theorem lowerFrom_append_blanks {bs : List Char} (hbs : ∀ b ∈ bs, isBlank b = true)
    (afterCased : Bool) (u : List Char) : lowerFrom afterCased (u ++ bs) = lowerFrom afterCased u ++ bs := by
  cases bs with
  | nil => simp
  | cons b bs =>
    rw [lowerFrom_append_blank (hbs b List.mem_cons_self),
      lowerFrom_of_isLowered false fun c hc => (caseless_of_isBlank (hbs c (by simp [hc]))).1]

theorem occursIn_iff (needle cs : List Char) : occursIn needle cs = true ↔ needle <:+: cs := by
  induction cs with
  | nil => simp [occursIn]
  | cons c cs ih => simp [occursIn, ih, List.isPrefixOf_iff_prefix, List.infix_cons_iff]

theorem occursIn_self (cs : List Char) : occursIn cs cs = true :=
  (occursIn_iff cs cs).2 (List.infix_refl cs)

theorem trimChars_split (cs : List Char) :
    ∃ bs₁ bs₂, (∀ b ∈ bs₁, isBlank b = true) ∧ (∀ b ∈ bs₂, isBlank b = true) ∧
      cs = bs₁ ++ trimChars cs ++ bs₂ := by
  refine ⟨cs.takeWhile isBlank, ((cs.dropWhile isBlank).reverse.takeWhile isBlank).reverse,
    fun b hb => List.mem_takeWhile_imp hb,
    fun b hb => List.mem_takeWhile_imp (List.mem_reverse.1 hb), ?_⟩
  -- the text after its leading blanks is, read backwards, its trailing blanks and then the rest
  have hrest : cs.dropWhile isBlank =
      trimChars cs ++ ((cs.dropWhile isBlank).reverse.takeWhile isBlank).reverse := by
    rw [trimChars, ← List.reverse_append, List.takeWhile_append_dropWhile, List.reverse_reverse]
  conv_lhs => rw [← List.takeWhile_append_dropWhile (p := isBlank) (l := cs), hrest]
  rw [List.append_assoc]

theorem dropWhile_blanks_append {bs : List Char} (hbs : ∀ b ∈ bs, isBlank b = true)
    (y : List Char) : (bs ++ y).dropWhile isBlank = y.dropWhile isBlank :=
  List.dropWhile_append_of_pos hbs

theorem trimChars_blanks_append {bs : List Char} (hbs : ∀ b ∈ bs, isBlank b = true)
    (y : List Char) : trimChars (bs ++ y) = trimChars y := by
  rw [trimChars, dropWhile_blanks_append hbs, ← trimChars]

theorem trimChars_append_blanks {bs : List Char} (hbs : ∀ b ∈ bs, isBlank b = true)
    (y : List Char) : trimChars (y ++ bs) = trimChars y := by
  unfold trimChars
  rw [List.dropWhile_append]
  split
  · next hy =>
    -- a text of blanks only trims to nothing, and so does the text with more blanks after it
    rw [List.isEmpty_iff.1 hy, List.dropWhile_eq_nil_iff.2 hbs]
  · rw [List.reverse_append, dropWhile_blanks_append (by simpa using hbs)]

theorem trimChars_eq_self {cs : List Char} (hhead : ∀ a ∈ cs.head?, isBlank a = false)
    (hlast : ∀ b ∈ cs.getLast?, isBlank b = false) : trimChars cs = cs := by
  have hfront : ∀ ds : List Char, (∀ a ∈ ds.head?, isBlank a = false) →
      ds.dropWhile isBlank = ds := by
    intro ds h
    cases ds with
    | nil => rfl
    | cons a ds => simp [h a rfl]
  rw [trimChars, hfront cs hhead, hfront cs.reverse (by simpa [List.head?_reverse] using hlast),
    List.reverse_reverse]

/-- Trimming before lowercasing gives what trimming after it gives. -/
theorem trimChars_lowerFrom_trimChars (cs : List Char) :
    trimChars (lowerFrom false (trimChars cs)) = trimChars (lowerFrom false cs) := by
  obtain ⟨bs₁, bs₂, h₁, h₂, hcs⟩ := trimChars_split cs
  conv_rhs => rw [hcs, List.append_assoc, lowerFrom_blanks_append h₁, lowerFrom_append_blanks h₂,
    ← List.append_assoc, trimChars_append_blanks h₂, trimChars_blanks_append h₁]

end Text

namespace Region

theorem normalChars_trimChars (cs : List Char) :
    normalChars (Text.trimChars cs) = normalChars cs := by
  simp only [normalChars, Text.trimChars_lowerFrom_trimChars]

theorem normalChars_lowerFrom (cs : List Char) :
    normalChars (Text.lowerFrom false cs) = normalChars cs := by
  simp only [normalChars, Text.lowerFrom_lowerFrom]

theorem normalName_trim (r : String) : normalName (Text.trim r) = normalName r := by
  simp [normalName, Text.trim, normalChars_trimChars]

end Region

theorem Office.normalRegion_build {r name : String} (hname : Region.normalName r = some name)
    (code bin : Option String) (officeName : String) :
    (Office.build code bin officeName (some r)).normalRegion = some name := by
  by_cases htrim : Text.trim r = ""
  · -- a region of blanks only has no normal name
    have hnone : Region.normalName (Text.trim r) = none := by rw [htrim]; decide
    rw [Region.normalName_trim, hname] at hnone
    exact absurd hnone (by simp)
  · have hkept : (some (Text.trim r)).filter (· ≠ "") = some (Text.trim r) := by
      simp [Option.filter_some, htrim]
    simp only [Office.build, Option.map_some, hkept, Option.bind_some, Region.normalName_trim,
      hname]

namespace Query

theorem partTerms_of_region {low n : List Char} (hregion : namesRegion low = true)
    (hname : Region.normalChars low = some n) : partTerms low = .region (String.ofList n) := by
  simp [partTerms, hregion, hname]

end Query

theorem Terms.parse_regions_of_region {r name : String} (hparts : Query.parts r = [Text.trim r])
    (hregion : Query.namesRegion (Text.lowercase (Text.trim r)).toList = true)
    (hname : Region.normalName r = some name) : (Terms.parse r).regions = [name] := by
  have hchars : Query.partChars r.toList = [Text.trimChars r.toList] := by
    apply List.map_injective_iff.2 fun a b h => String.ofList_inj.1 h
    simpa [Query.parts, Text.trim] using hparts
  obtain ⟨n, hn, rfl⟩ : ∃ n, Region.normalChars r.toList = some n ∧ String.ofList n = name := by
    simpa [Region.normalName] using hname
  -- the part is lowercased and trimmed before its region is reduced, which changes nothing
  have hlow : Region.normalChars (Text.lowerFrom false (Text.trimChars r.toList)) = some n := by
    rw [Region.normalChars_lowerFrom, Region.normalChars_trimChars, hn]
  have hpart := Query.partTerms_of_region (by simpa [Text.lowercase, Text.trim] using hregion) hlow
  simp [Terms.parse, hchars, hpart, Query.regionsOf, firstOccurrences, firstOccurrencesFrom]

namespace Scorer

variable (s : Scorer) (o : Office) (t : Terms)

theorem criteria_score :
    (s.score o t).adjustments.map (·.criterion) =
      (s.regionCalls o t ++ s.districtCalls o t ++ s.generalNameCalls o t ++
        s.generalRegionCalls o t).map Prod.fst := by
  rw [← regionStage_entries, ← districtStage_entries, ← generalNameStage_entries,
    ← generalRegionStage_entries]
  simp [score, adjustments, Adjustment.entry, Function.comp_def]

theorem regionMismatch_not_mem_laterCalls :
    Criterion.regionMismatch ∉
      (s.districtCalls o t ++ s.generalNameCalls o t ++ s.generalRegionCalls o t).map Prod.fst := by
  simp only [List.map_append, List.mem_append, not_or]
  refine ⟨⟨?_, ?_⟩, ?_⟩
  · unfold districtCalls
    split
    · split <;> simp
    · split
      · simp
      · split <;> simp
  · simp [generalNameCalls]
  · unfold generalRegionCalls
    split
    · split
      · split <;> simp
      · simp
    · simp

theorem regionCalls_of_mem {g : String} (hg : o.normalRegion = some g) (hne : g ≠ "")
    (hmem : g ∈ t.regions) : s.regionCalls o t = [(.regionMatch, s.weight .regionMatch)] := by
  have hocc : t.regions.any (Text.occurs · g) = true :=
    List.any_eq_true.2 ⟨g, hmem, Text.occursIn_self g.toList⟩
  simp [regionCalls, List.ne_nil_of_mem hmem, hg, hne, hocc]

end Scorer

/-- A query that is one part naming a region with a normal name reads that name as its only
region term. Every office built with that region keeps the same normal name, so under every
scorer it gets a region match and never a region mismatch. -/
theorem region_query_matches_office_region {r name : String}
    (hparts : Query.parts r = [Text.trim r])
    (hregion : Query.namesRegion (Text.lowercase (Text.trim r)).toList = true)
    (hname : Region.normalName r = some name) :
    (Terms.parse r).regions = [name] ∧
    ∀ (s : Scorer) (code bin : Option String) (officeName : String),
      Criterion.regionMatch ∈ (s.score (Office.build code bin officeName (some r))
        (Terms.parse r)).adjustments.map (·.criterion) ∧
      Criterion.regionMismatch ∉ (s.score (Office.build code bin officeName (some r))
        (Terms.parse r)).adjustments.map (·.criterion) := by
  have hregions := Terms.parse_regions_of_region hparts hregion hname
  refine ⟨hregions, fun s code bin officeName => ?_⟩
  have hne : name ≠ "" := by
    obtain ⟨n, hn, rfl⟩ : ∃ n, Region.normalChars r.toList = some n ∧ String.ofList n = name := by
      simpa [Region.normalName] using hname
    simpa using (Region.normalChars_eq_some hn).1
  have hcalls := s.regionCalls_of_mem (Office.build code bin officeName (some r)) (Terms.parse r)
    (Office.normalRegion_build hname code bin officeName) hne (by simp [hregions])
  have hlater := s.regionMismatch_not_mem_laterCalls (Office.build code bin officeName (some r))
    (Terms.parse r)
  rw [Scorer.criteria_score, hcalls]
  simp only [List.append_assoc, List.map_append] at hlater ⊢
  simp [hlater]

theorem region_query_matches_office_region_akmola :
    Query.parts "Акмолинская область" = [Text.trim "Акмолинская область"] ∧
    Query.namesRegion (Text.lowercase (Text.trim "Акмолинская область")).toList = true ∧
    Region.normalName "Акмолинская область" = some "акмолинская" ∧
    (Terms.parse "Акмолинская область").regions = ["акмолинская"] ∧
    ∀ (s : Scorer) (code bin : Option String) (officeName : String),
      Criterion.regionMatch ∈ (s.score (Office.build code bin officeName (some "Акмолинская область"))
        (Terms.parse "Акмолинская область")).adjustments.map (·.criterion) ∧
      Criterion.regionMismatch ∉ (s.score (Office.build code bin officeName
        (some "Акмолинская область")) (Terms.parse "Акмолинская область")).adjustments.map
          (·.criterion) := by
  have hparts : Query.parts "Акмолинская область" = [Text.trim "Акмолинская область"] := by
    decide +kernel
  have hregion : Query.namesRegion (Text.lowercase (Text.trim "Акмолинская область")).toList =
      true := by
    decide +kernel
  have hname : Region.normalName "Акмолинская область" = some "акмолинская" := by decide +kernel
  exact ⟨hparts, hregion, hname, region_query_matches_office_region hparts hregion hname⟩

end RevenueOffice
