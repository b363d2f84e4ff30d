import Mathlib
import RevenueOffice.Proofs.AffixCuts
import RevenueOffice.Proofs.RegionNames

/-!
# District stems

An office named for a district in adjectival form, "УГД по есильскому району", and a query naming
that district, "есильский район", meet on the stem "есильск", for every stem of letters ending in
"ск" that no other rule reads as a word of its own. Where a rule does not apply, the relational
reading of patterns shows that nothing matches; where it applies, the matcher's backtracking is
followed step by step.
-/

set_option autoImplicit false

namespace RevenueOffice

open Pattern

/-! ## Stems -/

namespace Text

def stemMarks : List Char := [',', ';', '/', '.', '"', '-']

/-- A character that may stand in a district stem: already lowercase, not blank, and no
punctuation mark that a rule reads. -/
def IsStemLetter (c : Char) : Prop := IsLowered c ∧ isBlank c = false ∧ c ∉ stemMarks

theorem isLowered_of_lowerFrom_eq {cs : List Char} (h : lowerFrom false cs = cs) :
    ∀ c ∈ cs, IsLowered c :=
  h ▸ isLowered_of_mem_lowerFrom false cs

theorem IsStemLetter.not_wordBreak {c : Char} (h : IsStemLetter c) : isWordBreak c = false := by
  obtain ⟨-, hb, hm⟩ := h
  simp only [stemMarks, List.mem_cons, List.not_mem_nil, or_false, not_or] at hm
  simp [isWordBreak, hb, hm.1, hm.2.2.2.1]

theorem normalWords_of_stemLetters {w : List Char} (hne : w ≠ []) (h : ∀ c ∈ w, IsStemLetter c) :
    normalWords w = [w] := by
  rw [normalWords, lowerFrom_of_isLowered false fun c hc => (h c hc).1]
  exact words_of_no_break hne fun c hc => (h c hc).not_wordBreak

end Text

theorem not_suffix_of_suffix {e v l : List Char} (he : e <:+ l) (h₁ : ¬ e <:+ v) (h₂ : ¬ v <:+ e) :
    ¬ v <:+ l :=
  fun hv => (List.suffix_or_suffix_of_suffix he hv).elim h₁ h₂

/-- A district stem: letters ending in "ск" that begin with no locality word and no word for
"district", and hold no inflected word for "district" or "region". -/
structure DistrictStem where
  text : String
  letters : ∀ c ∈ text.toList, Text.IsStemLetter c
  ends : "ск".toList <:+ text.toList
  not_begins : ∀ w ∈ ["село", "городу", "район", "ауданы"], ¬ w.toList <+: text.toList
  not_holds : ∀ w ∈ ["району", "облысы"], ¬ w.toList <:+: text.toList

namespace DistrictStem

variable (x : DistrictStem)

theorem exists_cons : ∃ d y, x.text.toList = d :: y := by
  cases h : x.text.toList with
  | nil => simpa [h] using x.ends.length_le
  | cons d y => exact ⟨d, y, rfl⟩

theorem two_le_length : 2 ≤ x.text.toList.length := by simpa using x.ends.length_le

theorem not_blank : ∀ c ∈ x.text.toList, Text.isBlank c = false := fun c hc => (x.letters c hc).2.1

theorem not_prefix {w : List Char}
    (hw : w ∈ (["село", "городу", "район", "ауданы"] : List String).map String.toList ∨
      ∃ c ∈ w, c ∈ Text.stemMarks) :
    ¬ w <+: x.text.toList := by
  intro hpre
  rcases hw with hw | ⟨c, hc, hmark⟩
  · obtain ⟨v, hv, rfl⟩ := List.mem_map.1 hw
    exact x.not_begins v hv hpre
  · exact (x.letters c (hpre.subset hc)).2.2 hmark

theorem prefix_of_prefix_append {w e : List Char} (hw : ¬ "ск".toList <:+: w)
    (h : w <+: x.text.toList ++ e) : w <+: x.text.toList := by
  rcases le_or_gt w.length x.text.toList.length with hle | hlt
  · exact List.prefix_of_prefix_length_le h (List.prefix_append _ _) hle
  · have hx : x.text.toList <+: w :=
      List.prefix_of_prefix_length_le (List.prefix_append _ _) h hlt.le
    exact absurd (x.ends.isInfix.trans hx.isInfix) hw

theorem not_prefix_append {w : List Char} (e : List Char) (hsk : ¬ "ск".toList <:+: w)
    (hw : w ∈ (["село", "городу", "район", "ауданы"] : List String).map String.toList ∨
      ∃ c ∈ w, c ∈ Text.stemMarks) :
    ¬ w <+: x.text.toList ++ e :=
  fun h => x.not_prefix hw (x.prefix_of_prefix_append hsk h)

theorem not_suffix {v : List Char} (h₁ : ¬ "ск".toList <:+ v) (h₂ : ¬ v <:+ "ск".toList) :
    ¬ v <:+ x.text.toList :=
  not_suffix_of_suffix x.ends h₁ h₂

theorem term_letters : ∀ c ∈ x.text.toList ++ "ий".toList, Text.IsStemLetter c := by
  have hending : ∀ c ∈ "ий".toList, Text.isBlank c = false ∧ c ∉ Text.stemMarks := by
    simp [Text.stemMarks]; decide
  intro c hc
  rcases List.mem_append.1 hc with hx | hi
  · exact x.letters c hx
  · exact ⟨Text.isLowered_of_lowerFrom_eq (by decide +kernel) c hi, hending c hi⟩

end DistrictStem

/-! ## The office name -/

namespace OfficeName

theorem lowerFrom_authority {rest : List Char} (h : ∀ c ∈ rest, Text.IsLowered c) :
    Text.lowerFrom false ("УГД по ".toList ++ rest) = "угд по ".toList ++ rest := by
  rw [show "УГД по ".toList ++ rest = "УГД по".toList ++ ' ' :: rest by simp,
    Text.lowerFrom_append_blank (by decide), Text.lowerFrom_of_isLowered false h,
    show Text.lowerFrom false "УГД по".toList = "угд по".toList by decide +kernel]
  simp

theorem rules_authority_apply {rest : List Char} (hne : rest ≠ [])
    (hhead : ∀ c ∈ rest.head?, Text.isBlank c = false) :
    rules[0].apply ("угд по ".toList ++ rest) = some rest := by
  obtain ⟨d, rest, rfl⟩ := List.exists_cons_of_ne_nil hne
  have hd : Text.isBlank d = false := hhead d rfl
  simp +decide [rules, Rule.apply, replaceFirst, search, searchFrom, matchAt, run, seqAll, anyOf,
    lit, Pattern.optional, blanks, CharSet.contains, Cursor.advance, hd, List.range_succ]

theorem rules_locality_apply (x : DistrictStem) (e : List Char) :
    rules[1].apply (x.text.toList ++ e) = none := by
  simp only [rules, List.getElem_cons_succ, List.getElem_cons_zero, seqAll]
  refine Rule.apply_strip_of_search_eq_none (search_start_anyOf_eq_none fun w hw => ?_)
  simp only [List.mem_cons, List.not_mem_nil, or_false] at hw
  rcases hw with rfl | rfl | rfl | rfl | rfl <;>
    exact x.not_prefix_append e (by decide +kernel) (by simp [Text.stemMarks])

/-- The stem before "ому району" is captured: the greedy run of letters takes "ому" as well and
gives its three letters back before the ending matches. -/
theorem rules_districtForm_apply (x : DistrictStem) :
    rules[2].apply (x.text.toList ++ "ому району".toList) = some x.text.toList := by
  obtain ⟨d, y, hxy⟩ := x.exists_cons
  have hletter : ∀ c ∈ x.text.toList, nonBlank.contains c = true := fun c hc => by
    simp [nonBlank, CharSet.contains, x.not_blank c hc]
  have hkept : trimStem (d :: y) = d :: y := by
    have hsk : ['с', 'к'] <:+ d :: y := by simpa [hxy] using x.ends
    simp [trimStem, hsk]
  simp only [rules, List.getElem_cons_succ, List.getElem_cons_zero, seqAll]
  rw [hxy, Rule.apply_capture_start_run (hletter d (by simp [hxy]))
    (fun c hc => hletter c (by simp [hxy, hc])), hkept]
  · intro j hj0 hj pos g
    have hrun : ("ому району".toList.takeWhile nonBlank.contains).length = 3 := by decide
    rw [hrun] at hj
    interval_cases j <;> simp +decide [run, anyOf, lit, blanks1, oneOrMore, CharSet.contains]
  · intro pos g
    refine ⟨⟨pos + 10, [], g⟩, ?_, rfl⟩
    simp +decide [run, anyOf, lit, blanks1, oneOrMore, CharSet.contains, Cursor.advance,
      List.range_succ]

theorem rules_namedAfter_apply (x : DistrictStem) : rules[3].apply x.text.toList = none := by
  simp only [rules, List.getElem_cons_succ, List.getElem_cons_zero, seqAll]
  refine Rule.apply_capture_of_search_eq_none (@search_start_anyOf_eq_none ["району"] _ _ ?_)
  simpa using fun h : "району".toList <+: x.text.toList => x.not_holds _ (by simp) h.isInfix

theorem rules_quoted_apply (x : DistrictStem) : rules[4].apply x.text.toList = none := by
  simp only [rules, List.getElem_cons_succ, List.getElem_cons_zero, seqAll]
  refine Rule.apply_capture_of_search_eq_none (@search_start_anyOf_eq_none ["\""] _ _ ?_)
  simpa using x.not_prefix (w := ['"']) (.inr ⟨'"', by simp, by decide⟩)

theorem rules_districtWord_apply (x : DistrictStem) : rules[5].apply x.text.toList = none := by
  simp only [rules, List.getElem_cons_succ, List.getElem_cons_zero]
  exact Rule.apply_strip_of_search_eq_none (search_blankWord_eq_none x.not_blank
    (x.not_holds _ (by simp)) (x.not_suffix (by decide) (by decide)))

theorem rules_regionWord_apply (x : DistrictStem) : rules[6].apply x.text.toList = none := by
  simp only [rules, List.getElem_cons_succ, List.getElem_cons_zero]
  exact Rule.apply_strip_of_search_eq_none (search_blankWord_eq_none x.not_blank
    (x.not_holds _ (by simp)) (x.not_suffix (by decide) (by decide)))

theorem applyAll_rules_stem (x : DistrictStem) :
    applyAll rules ("угд по ".toList ++ (x.text.toList ++ "ому району".toList)) = x.text.toList := by
  obtain ⟨d, y, hxy⟩ := x.exists_cons
  have hne : x.text.toList ++ "ому району".toList ≠ [] := by simp [hxy]
  have hhead : ∀ c ∈ (x.text.toList ++ "ому району".toList).head?, Text.isBlank c = false :=
    fun c hc => x.not_blank c (by simp_all)
  show applyAll (rules.drop 0) _ = _
  calc applyAll (rules.drop 0) ("угд по ".toList ++ (x.text.toList ++ "ому району".toList))
      = applyAll (rules.drop 1) (x.text.toList ++ "ому району".toList) :=
        applyAll_drop_of_apply (by decide) (by rw [rules_authority_apply hne hhead]; rfl)
    _ = applyAll (rules.drop 2) (x.text.toList ++ "ому району".toList) :=
        applyAll_drop_of_apply (by decide) (by rw [rules_locality_apply]; rfl)
    _ = applyAll (rules.drop 3) x.text.toList :=
        applyAll_drop_of_apply (by decide) (by rw [rules_districtForm_apply]; rfl)
    _ = applyAll (rules.drop 4) x.text.toList :=
        applyAll_drop_of_apply (by decide) (by rw [rules_namedAfter_apply]; rfl)
    _ = applyAll (rules.drop 5) x.text.toList :=
        applyAll_drop_of_apply (by decide) (by rw [rules_quoted_apply]; rfl)
    _ = applyAll (rules.drop 6) x.text.toList :=
        applyAll_drop_of_apply (by decide) (by rw [rules_districtWord_apply]; rfl)
    _ = applyAll (rules.drop 7) x.text.toList :=
        applyAll_drop_of_apply (by decide) (by rw [rules_regionWord_apply]; rfl)
    _ = x.text.toList := rfl

end OfficeName

namespace Office

theorem build_districtStem (x : DistrictStem) (code bin : Option String) :
    (build code bin ("УГД по " ++ x.text ++ "ому району") none).isDistrict = true ∧
    (build code bin ("УГД по " ++ x.text ++ "ому району") none).nameTokens = [x.text] ∧
    (build code bin ("УГД по " ++ x.text ++ "ому району") none).normalRegion = none := by
  obtain ⟨d, y, hxy⟩ := x.exists_cons
  have hchars : ("УГД по " ++ x.text ++ "ому району").toList =
      "УГД по ".toList ++ (x.text.toList ++ "ому району".toList) := by simp
  have htrim : Text.trim ("УГД по " ++ x.text ++ "ому району") = "УГД по " ++ x.text ++ "ому району" := by
    have hlast : ∀ b ∈ ("УГД по ".toList ++ (x.text.toList ++ "ому району".toList)).getLast?,
        Text.isBlank b = false := by
      rw [List.getLast?_append_of_ne_nil _ (by simp), List.getLast?_append_of_ne_nil _ (by simp)]
      simp; decide
    rw [Text.trim, hchars, Text.trimChars_eq_self (by simp; decide) hlast, ← hchars,
      String.ofList_toList]
  have hrest : ∀ c ∈ x.text.toList ++ "ому району".toList, Text.IsLowered c := by
    intro c hc
    rcases List.mem_append.1 hc with hx | hw
    · exact (x.letters c hx).1
    · exact Text.isLowered_of_lowerFrom_eq (by decide +kernel) c hw
  have hlow := OfficeName.lowerFrom_authority hrest
  have hwords := Text.normalWords_of_stemLetters (by simp [hxy]) x.letters
  have hkeep : OfficeName.keepsWord x.text.toList = true := by
    have h2 := x.two_le_length
    simp only [OfficeName.keepsWord, Bool.or_eq_true, decide_eq_true_eq]
    exact .inl h2
  have hinfix : "район".toList <:+: "угд по ".toList ++ (x.text.toList ++ "ому району".toList) :=
    (by decide : "район".toList <:+: "ому району".toList).trans
      ((List.suffix_append_of_suffix (List.suffix_refl _)).trans (List.suffix_append _ _)).isInfix
  refine ⟨?_, ?_, by simp [build]⟩
  · simp only [build, htrim, OfficeName.namesDistrict, hchars, hlow]
    exact (Text.occursIn_iff _ _).2 hinfix
  · simp only [build, htrim, OfficeName.tokens, hchars, hlow, OfficeName.applyAll_rules_stem, hwords]
    simp [hkeep]

end Office

/-! ## The query -/

namespace Query

theorem separator_matchAt_of_letter {d : Char} (hd : Text.IsStemLetter d) (pos : Nat)
    (rest : List Char) : separator.matchAt pos (d :: rest) = none := by
  obtain ⟨-, hb, hm⟩ := hd
  simp only [Text.stemMarks, List.mem_cons, List.not_mem_nil, or_false, not_or] at hm
  simp [separator, matchAt, run, seqAll, oneOrMore, CharSet.contains, hb, hm.1, hm.2.1, hm.2.2.1]

theorem partChars_letters_district {u : List Char} (hu : ∀ c ∈ u, Text.IsStemLetter c)
    (hne : u ≠ []) : partChars (u ++ " район".toList) = [u ++ " район".toList] := by
  have hsearch : separator.searchFrom 0 (u ++ " район".toList) = none := by
    rw [searchFrom_append_of_none fun i hi => ?_]
    · simp +decide [separator, searchFrom, matchAt, run, seqAll, oneOrMore, anyOf, lit,
        CharSet.contains, Cursor.advance, List.range_succ]
    · rw [List.drop_eq_getElem_cons (by simp; omega), List.getElem_append_left hi]
      exact separator_matchAt_of_letter (hu _ (List.getElem_mem hi)) _ _
  have hsplit : separator.split (u ++ " район".toList) = [u ++ " район".toList] := by
    rw [split, splitFrom, hsearch]
  obtain ⟨d, u, rfl⟩ := List.exists_cons_of_ne_nil hne
  have hd : Text.isBlank d = false := (hu d (by simp)).2.1
  have htrim : Text.trimChars (d :: u ++ " район".toList) = d :: u ++ " район".toList :=
    Text.trimChars_eq_self (by simp [hd])
      (by rw [List.getLast?_append_of_ne_nil _ (by simp)]; simp; decide)
  rw [partChars, hsplit, List.map_singleton, htrim]
  simp

theorem namesRegion_district (x : DistrictStem) :
    namesRegion (x.text.toList ++ "ий".toList ++ " район".toList) = false := by
  have hends : ∀ w ∈ regionEndings,
      ¬ w.toList <:+ x.text.toList ++ "ий".toList ++ " район".toList := by
    intro w hw
    refine not_suffix_of_suffix (List.suffix_append _ _) ?_ ?_ <;>
      simp only [regionEndings, List.mem_cons, List.not_mem_nil, or_false] at hw <;>
      rcases hw with rfl | rfl | rfl <;> decide +kernel
  have hcities : ∀ w ∈ cityBeginnings,
      ¬ w.toList <+: x.text.toList ++ "ий".toList ++ " район".toList := by
    intro w hw
    rw [List.append_assoc]
    simp only [cityBeginnings, List.mem_cons, List.not_mem_nil, or_false] at hw
    rcases hw with rfl | rfl | rfl | rfl <;>
      exact x.not_prefix_append _ (by decide +kernel) (by simp [Text.stemMarks])
  unfold namesRegion
  rw [Bool.or_eq_false_iff, List.any_eq_false, List.any_eq_false]
  exact ⟨fun w hw h => hends w hw (List.isSuffixOf_iff_suffix.1 h),
    fun w hw h => hcities w hw (List.isPrefixOf_iff_prefix.1 h)⟩

theorem namesDistrict_district (x : DistrictStem) :
    namesDistrict (x.text.toList ++ "ий".toList ++ " район".toList) = true := by
  have hocc : Text.occursIn " район".toList (x.text.toList ++ "ий".toList ++ " район".toList) =
      true := (Text.occursIn_iff _ _).2 (List.suffix_append _ _).isInfix
  simp only [namesDistrict, districtMarkers, List.any_cons, hocc, Bool.true_or]

theorem districtRules_suffix_apply (x : DistrictStem) :
    districtRules[0].apply (x.text.toList ++ "ий".toList ++ " район".toList) =
      some (x.text.toList ++ "ий".toList) := by
  simp only [districtRules, districtWord, List.getElem_cons_zero, Rule.apply, replaceFirst, search]
  rw [searchFrom_append_of_none fun i hi => ?_]
  · simp +decide [searchFrom, matchAt, run, seqAll, blanks, anyOf, lit, CharSet.contains,
      Cursor.advance, List.range_succ, List.take_append, List.drop_append, List.take_of_length_le,
      List.drop_of_length_le]
    omega
  · refine matchAt_finalWord_eq_none (b := ' ') (by decide +kernel) (by decide) ?_ ?_
    · rw [List.drop_eq_getElem_cons (by simp at hi ⊢; omega), List.getElem_append_left hi]
      simpa using (x.term_letters _ (List.getElem_mem hi)).2.1
    · rw [List.drop_append_of_le_length hi.le]
      simp

theorem districtRules_prefix_apply (x : DistrictStem) :
    districtRules[1].apply (x.text.toList ++ "ий".toList) = none := by
  simp only [districtRules, districtWord, List.getElem_cons_succ, List.getElem_cons_zero, seqAll]
  refine Rule.apply_strip_of_search_eq_none (search_start_anyOf_eq_none fun w hw => ?_)
  simp only [List.mem_cons, List.not_mem_nil, or_false] at hw
  rcases hw with rfl | rfl | rfl <;>
    exact x.not_prefix_append _ (by decide +kernel) (by simp [Text.stemMarks])

theorem applyAll_districtRules_stem (x : DistrictStem) :
    applyAll districtRules (x.text.toList ++ "ий".toList ++ " район".toList) =
      x.text.toList ++ "ий".toList := by
  show applyAll (districtRules.drop 0) _ = _
  calc applyAll (districtRules.drop 0) (x.text.toList ++ "ий".toList ++ " район".toList)
      = applyAll (districtRules.drop 1) (x.text.toList ++ "ий".toList) :=
        applyAll_drop_of_apply (by decide) (by rw [districtRules_suffix_apply]; rfl)
    _ = applyAll (districtRules.drop 2) (x.text.toList ++ "ий".toList) :=
        applyAll_drop_of_apply (by decide) (by rw [districtRules_prefix_apply]; rfl)
    _ = x.text.toList ++ "ий".toList := rfl

theorem partTerms_district (x : DistrictStem) :
    partTerms (x.text.toList ++ "ий".toList ++ " район".toList) = .district [x.text ++ "ий"] := by
  have hwords := Text.normalWords_of_stemLetters (by simp) x.term_letters
  simp only [partTerms, namesRegion_district, namesDistrict_district, applyAll_districtRules_stem,
    hwords, Bool.false_eq_true, if_false, if_true]
  simp

end Query

theorem Terms.parse_districtStem (x : DistrictStem) :
    Terms.parse (x.text ++ "ий район") =
      ⟨x.text ++ "ий район", [], [x.text ++ "ий"], [], [x.text ++ "ий"]⟩ := by
  have hq : (x.text ++ "ий район").toList = x.text.toList ++ "ий".toList ++ " район".toList := by
    simp
  have hlowered : ∀ c ∈ x.text.toList ++ "ий".toList ++ " район".toList, Text.IsLowered c := by
    intro c hc
    rcases List.mem_append.1 hc with ht | hw
    · exact (x.term_letters c ht).1
    · exact Text.isLowered_of_lowerFrom_eq (by decide +kernel) c hw
  have hlen : 1 < x.text.length + "ий".length := by
    have h2 := x.two_le_length
    simp only [String.length_toList] at h2
    omega
  simp only [Terms.parse, hq, Query.partChars_letters_district x.term_letters (by simp),
    List.map_singleton, Text.lowerFrom_of_isLowered false hlowered, Query.partTerms_district,
    Query.regionsOf, Query.districtsOf, Query.generalOf]
  simp [firstOccurrences, firstOccurrencesFrom, hlen]

/-! ## Scoring -/

theorem Scorer.score_districtStem (s : Scorer) (x : DistrictStem) (code bin : Option String) :
    (s.score (Office.build code bin ("УГД по " ++ x.text ++ "ому району") none)
      (Terms.parse (x.text ++ "ий район"))).adjustments.map Adjustment.entry =
        [(.districtMatch, s.weight .districtMatch)] ∧
    (s.score (Office.build code bin ("УГД по " ++ x.text ++ "ому району") none)
      (Terms.parse (x.text ++ "ий район"))).score = s.weight .districtMatch := by
  obtain ⟨hdistrict, htokens, hregion⟩ := Office.build_districtStem x code bin
  -- the stem occurs in the district term, which begins with it
  have hoverlap : overlaps (x.text ++ "ий") [x.text] = true := by
    have hocc : Text.occurs x.text (x.text ++ "ий") = true :=
      (Text.occursIn_iff _ _).2 (by simpa using (List.prefix_append _ _).isInfix)
    simp [overlaps, hocc]
  obtain ⟨hsum, hentries⟩ := s.score_adjustments_by_stage
    (Office.build code bin ("УГД по " ++ x.text ++ "ому району") none)
    (Terms.parse (x.text ++ "ий район"))
  rw [Terms.parse_districtStem] at hsum hentries ⊢
  have hhits : [x.text ++ "ий"].filter (overlaps · [x.text]) = [x.text ++ "ий"] := by
    simp [hoverlap]
  simp only [Scorer.regionCalls, Scorer.districtCalls, Scorer.generalNameCalls,
    Scorer.generalRegionCalls, hdistrict, htokens, hregion, hhits] at hentries
  refine ⟨hentries, ?_⟩
  obtain ⟨a, ha, hentry⟩ := List.map_eq_singleton_iff.1 hentries
  rw [hsum, ha]
  simpa [Adjustment.entry] using congrArg Prod.snd hentry

/-- The office-name rules and the query parser agree on every district stem. The office named
"УГД по " ++ x ++ "ому району" is a district office whose only name word is the stem x; the query
x ++ "ий район" has the one district term x ++ "ий" and no other term; and the standard scorer
rewards the pair with a single district match, for a score of 150. -/
theorem district_stem_agrees (x : DistrictStem) (code bin : Option String) :
    (Office.build code bin ("УГД по " ++ x.text ++ "ому району") none).isDistrict = true ∧
    (Office.build code bin ("УГД по " ++ x.text ++ "ому району") none).nameTokens = [x.text] ∧
    (Terms.parse (x.text ++ "ий район")).districts = [x.text ++ "ий"] ∧
    (Terms.parse (x.text ++ "ий район")).regions = [] ∧
    (Terms.parse (x.text ++ "ий район")).general = [] ∧
    (({} : Scorer).score (Office.build code bin ("УГД по " ++ x.text ++ "ому району") none)
      (Terms.parse (x.text ++ "ий район"))).adjustments.map (·.criterion) = [.districtMatch] ∧
    (({} : Scorer).score (Office.build code bin ("УГД по " ++ x.text ++ "ому району") none)
      (Terms.parse (x.text ++ "ий район"))).score = 150 := by
  obtain ⟨hdistrict, htokens, -⟩ := Office.build_districtStem x code bin
  obtain ⟨hentries, hscore⟩ := Scorer.score_districtStem {} x code bin
  have hcriteria := congrArg (List.map Prod.fst) hentries
  simp only [List.map_map, List.map_cons, List.map_nil] at hcriteria
  refine ⟨hdistrict, htokens, ?_, ?_, ?_, hcriteria, hscore⟩ <;> simp [Terms.parse_districtStem]

def DistrictStem.esil : DistrictStem where
  text := "есильск"
  letters := by
    intro c hc
    refine ⟨Text.isLowered_of_lowerFrom_eq (by decide +kernel) c hc, ?_⟩
    simp [Text.stemMarks] at hc ⊢
    rcases hc with rfl | rfl | rfl | rfl | rfl | rfl | rfl <;> decide
  ends := by decide +kernel
  not_begins := by decide +kernel
  not_holds := by decide +kernel

theorem district_stem_agrees_esil :
    (Office.build none none "УГД по есильскому району" none).nameTokens = ["есильск"] ∧
    (Terms.parse "есильский район").districts = ["есильский"] ∧
    (({} : Scorer).score (Office.build none none "УГД по есильскому району" none)
      (Terms.parse "есильский район")).score = 150 :=
  let h := district_stem_agrees DistrictStem.esil none none
  ⟨h.2.1, h.2.2.1, h.2.2.2.2.2.2⟩

end RevenueOffice
