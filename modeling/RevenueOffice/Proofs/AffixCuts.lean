import Mathlib
import RevenueOffice.Proofs.Matching
import RevenueOffice.Proofs.NormalForm
import RevenueOffice.Proofs.TermSets

/-!
# Stripping affixes keeps pieces of words

The rules that strip the words for "district", "city" and so on from a part cut a beginning or an
ending off it and nothing else, so every district or general term is a contiguous piece of one
word of the part's normal form. It may cut into a word: the affix patterns allow no blank after
the affix, so `Городище` reads as `ище`.
-/

set_option autoImplicit false

namespace RevenueOffice

namespace Text

/-- Every word of the first text lies inside some word of the second. -/
def WordsWithin (a b : List Char) : Prop := ∀ w ∈ words a, ∃ v ∈ words b, w <:+: v

theorem WordsWithin.refl (a : List Char) : WordsWithin a a :=
  fun w hw => ⟨w, hw, List.infix_refl w⟩

theorem WordsWithin.trans {a b c : List Char} (hab : WordsWithin a b) (hbc : WordsWithin b c) :
    WordsWithin a c := by
  intro w hw
  obtain ⟨v, hv, hwv⟩ := hab w hw
  obtain ⟨u, hu, hvu⟩ := hbc v hv
  exact ⟨u, hu, hwv.trans hvu⟩

theorem exists_prefix_mem_wordsFrom {acc : List Char} (hacc : acc ≠ []) (cs : List Char) :
    ∃ v ∈ wordsFrom acc cs, acc.reverse <+: v := by
  induction cs generalizing acc with
  | nil => exact ⟨acc.reverse, by simp [wordsFrom, hacc], List.prefix_refl _⟩
  | cons c cs ih =>
    by_cases hc : isWordBreak c = true
    · exact ⟨acc.reverse, by simp [wordsFrom, hc, hacc], List.prefix_refl _⟩
    · obtain ⟨v, hv, hpre⟩ := ih (show c :: acc ≠ [] by simp)
      refine ⟨v, by simpa [wordsFrom, hc] using hv, ?_⟩
      exact (List.prefix_append _ [c]).trans (by simpa using hpre)

theorem wordsFrom_within_of_suffix {acc acc' : List Char} (h : acc'.reverse <:+ acc.reverse)
    (cs : List Char) : ∀ w ∈ wordsFrom acc' cs, ∃ v ∈ wordsFrom acc cs, w <:+: v := by
  induction cs generalizing acc acc' with
  | nil =>
    intro w hw
    by_cases he : acc' = []
    · simp [wordsFrom, he] at hw
    · have hacc : acc ≠ [] := by
        rintro rfl
        exact he (List.reverse_eq_nil_iff.1 (List.eq_nil_of_suffix_nil (by simpa using h)))
      simp only [wordsFrom, List.isEmpty_iff, he, ↓reduceIte, List.mem_singleton] at hw
      subst hw
      exact ⟨acc.reverse, by simp [wordsFrom, hacc], h.isInfix⟩
  | cons c cs ih =>
    by_cases hc : isWordBreak c = true
    · -- both readings hand out the run read so far and start afresh
      intro w hw
      have hwords : ∀ v ∈ wordsFrom [] cs, v ∈ wordsFrom acc (c :: cs) := by
        intro v hv
        by_cases he : acc = [] <;> simp [wordsFrom, hc, he, hv]
      by_cases he' : acc' = []
      · simp only [wordsFrom, hc, he', List.isEmpty_nil, ↓reduceIte] at hw
        exact ⟨w, hwords w hw, List.infix_refl w⟩
      · simp only [wordsFrom, hc, List.isEmpty_iff, he', ↓reduceIte, List.mem_cons] at hw
        rcases hw with rfl | hw
        · have hacc : acc ≠ [] := by
            rintro rfl
            exact he' (List.reverse_eq_nil_iff.1 (List.eq_nil_of_suffix_nil (by simpa using h)))
          exact ⟨acc.reverse, by simp [wordsFrom, hc, hacc], h.isInfix⟩
        · exact ⟨w, hwords w hw, List.infix_refl w⟩
    · -- both readings add the character to their run
      have hsuf : (c :: acc').reverse <:+ (c :: acc).reverse := by
        obtain ⟨t, ht⟩ := h
        exact ⟨t, by simp [← ht]⟩
      simpa [wordsFrom, hc] using ih hsuf

theorem words_tail_within (c : Char) (cs : List Char) : WordsWithin cs (c :: cs) := by
  unfold WordsWithin
  by_cases hc : isWordBreak c = true
  · have hwords : words (c :: cs) = words cs := by simp [words, wordsFrom, hc]
    rw [hwords]
    exact WordsWithin.refl cs
  · have hwords : words (c :: cs) = wordsFrom [c] cs := by simp [words, wordsFrom, hc]
    rw [hwords]
    exact wordsFrom_within_of_suffix (by simp) cs

theorem words_drop_within (n : Nat) (cs : List Char) : WordsWithin (cs.drop n) cs := by
  induction n generalizing cs with
  | zero => exact WordsWithin.refl cs
  | succ n ih =>
    cases cs with
    | nil => exact WordsWithin.refl []
    | cons c cs => exact (ih cs).trans (words_tail_within c cs)

theorem wordsFrom_take_within (acc cs : List Char) (n : Nat) :
    ∀ w ∈ wordsFrom acc (cs.take n), ∃ v ∈ wordsFrom acc cs, w <:+: v := by
  induction cs generalizing acc n with
  | nil => intro w hw; exact ⟨w, by simpa using hw, List.infix_refl w⟩
  | cons c cs ih =>
    intro w hw
    cases n with
    | zero =>
      -- the run read so far is a word of the whole text, or the start of one
      by_cases he : acc = []
      · simp [wordsFrom, he] at hw
      simp only [List.take_zero, wordsFrom, List.isEmpty_iff, he, ↓reduceIte,
        List.mem_singleton] at hw
      subst hw
      by_cases hc : isWordBreak c = true
      · exact ⟨acc.reverse, by simp [wordsFrom, hc, he], List.infix_refl _⟩
      · obtain ⟨v, hv, hpre⟩ := exists_prefix_mem_wordsFrom (show c :: acc ≠ [] by simp) cs
        refine ⟨v, by simpa [wordsFrom, hc] using hv, ?_⟩
        exact ((List.prefix_append _ [c]).trans (by simpa using hpre)).isInfix
    | succ n =>
      rw [List.take_succ_cons] at hw
      by_cases hc : isWordBreak c = true
      · by_cases he : acc = []
        · simp only [wordsFrom, hc, he, List.isEmpty_nil, ↓reduceIte] at hw ⊢
          exact ih [] n w hw
        · simp only [wordsFrom, hc, List.isEmpty_iff, he, ↓reduceIte, List.mem_cons] at hw ⊢
          rcases hw with rfl | hw
          · exact ⟨_, .inl rfl, List.infix_refl _⟩
          · obtain ⟨v, hv, hwv⟩ := ih [] n w hw
            exact ⟨v, .inr hv, hwv⟩
      · simp only [wordsFrom, hc, Bool.false_eq_true, ↓reduceIte] at hw ⊢
        exact ih (c :: acc) n w hw

theorem words_take_within (n : Nat) (cs : List Char) : WordsWithin (cs.take n) cs :=
  wordsFrom_take_within [] cs n

theorem words_cut_within {cs : List Char} (n : Nat) {e : List Char} (he : e = [] ∨ e = ['\n']) :
    WordsWithin (cs.take n ++ e) cs := by
  rcases he with rfl | rfl
  · simpa using words_take_within n cs
  · have hwords : words (cs.take n ++ ['\n']) = words (cs.take n) := by
      rw [words_append_break (c := '\n') (by decide), show words [] = [] from rfl, List.append_nil]
    intro w hw
    rw [hwords] at hw
    exact words_take_within n cs w hw

theorem isLowered_lineFeed : IsLowered '\n' := ⟨by decide +kernel, by decide, by decide⟩

end Text

namespace Query

theorem districtRules_cutsEnds : ∀ r ∈ districtRules, r.CutsEnds := by
  simp only [districtRules, List.mem_cons, List.not_mem_nil, or_false]
  rintro r (rfl | rfl)
  · exact Rule.cutsEnds_finish _ _ _
  · exact Rule.cutsEnds_start _ _

theorem generalRules_cutsEnds : ∀ r ∈ generalRules, r.CutsEnds := by
  simp only [generalRules, List.mem_cons, List.not_mem_nil, or_false]
  rintro r (rfl | rfl)
  · exact Rule.cutsEnds_start _ _
  · exact Rule.cutsEnds_finish _ _ _

variable {rules : List Rule} (hrules : ∀ r ∈ rules, r.CutsEnds)
include hrules

theorem applyAll_wordsWithin (cs : List Char) : Text.WordsWithin (applyAll rules cs) cs :=
  applyAll_induction (P := fun x => Text.WordsWithin x cs) hrules (fun _ n h => (Text.words_drop_within n _).trans h)
    (fun _ n _ h he => (Text.words_cut_within n he).trans h) (Text.WordsWithin.refl cs)

theorem applyAll_isLowered {cs : List Char} (hcs : ∀ c ∈ cs, Text.IsLowered c) :
    ∀ c ∈ applyAll rules cs, Text.IsLowered c := by
  refine applyAll_induction (P := fun x => ∀ c ∈ x, Text.IsLowered c) hrules ?_ ?_ hcs
  · exact fun x n hx c hc => hx c (List.mem_of_mem_drop hc)
  · intro x n e hx he c hc
    rcases List.mem_append.1 hc with hc | hc
    · exact hx c (List.mem_of_mem_take hc)
    · rcases he with rfl | rfl
      · simp at hc
      · rw [List.mem_singleton.1 hc]
        exact Text.isLowered_lineFeed

theorem normalWords_applyAll_within {low : List Char} (hlow : ∀ c ∈ low, Text.IsLowered c) :
    ∀ w ∈ Text.normalWords (applyAll rules low), ∃ v ∈ Text.words low, w <:+: v := by
  rw [Text.normalWords, Text.lowerFrom_of_isLowered false (applyAll_isLowered hrules hlow)]
  exact applyAll_wordsWithin hrules low

omit hrules

def PartTerms.WithinWords (low : List Char) : PartTerms → Prop
  | .region _ => True
  | .district ts => ∀ x ∈ ts, ∃ w ∈ Text.words low, x.toList <:+: w
  | .general ts => ∀ x ∈ ts, ∃ w ∈ Text.words low, x.toList <:+: w

theorem partTerms_withinWords {low : List Char} (hlow : ∀ c ∈ low, Text.IsLowered c) :
    (partTerms low).WithinWords low := by
  have hgeneral : (PartTerms.general ((if (Text.normalWords (applyAll generalRules low)).isEmpty
      then Text.normalWords low else Text.normalWords (applyAll generalRules low)).map
        String.ofList)).WithinWords low := by
    intro x hx
    obtain ⟨w, hw, rfl⟩ := List.mem_map.1 hx
    split at hw
    · rw [Text.normalWords, Text.lowerFrom_of_isLowered false hlow] at hw
      exact ⟨w, hw, by simp⟩
    · simpa using normalWords_applyAll_within generalRules_cutsEnds hlow w hw
  unfold partTerms
  split
  · trivial
  · by_cases hd : namesDistrict low = true
    · simp only [hd, ↓reduceIte]
      split
      · -- district words: those of what the district rules leave, with two letters or more
        intro x hx
        obtain ⟨w, hw, rfl⟩ := List.mem_map.1 hx
        simpa using normalWords_applyAll_within districtRules_cutsEnds hlow w
          (List.mem_filter.1 hw).1
      · exact hgeneral
    · simp only [hd, Bool.false_eq_true, ↓reduceIte, List.isEmpty_nil, Bool.not_true]
      exact hgeneral

end Query

theorem withinWords_of_mem_contributions {s : String} {pt : Query.PartTerms}
    (h : pt ∈ Query.contributions s) :
    ∃ p ∈ Query.parts s, pt.WithinWords (Text.lowercase p).toList := by
  obtain ⟨p, hp, rfl⟩ := List.mem_map.1 h
  refine ⟨String.ofList p, List.mem_map_of_mem hp, ?_⟩
  simpa [Text.lowercase] using Query.partTerms_withinWords (Text.isLowered_of_mem_lowerFrom false p)

/-- Every district and general term of a query is a contiguous piece of one word of the normal
form of one of its lowercased parts. -/
theorem terms_within_part_words (s : String) :
    ∀ x ∈ (Terms.parse s).general ++ (Terms.parse s).districts,
      ∃ p ∈ Query.parts s, ∃ w ∈ Text.normalWords (Text.lowercase p).toList, x.toList <:+: w := by
  intro x hx
  have hnormal (p : String) :
      Text.normalWords (Text.lowercase p).toList = Text.words (Text.lowercase p).toList := by
    simp [Text.normalWords, Text.lowercase, Text.lowerFrom_lowerFrom]
  obtain ⟨ts, hts, hxts⟩ : ∃ ts, (Query.PartTerms.general ts ∈ Query.contributions s ∨
      Query.PartTerms.district ts ∈ Query.contributions s) ∧ x ∈ ts := by
    rcases List.mem_append.1 hx with hx | hx
    · obtain ⟨⟨ts, hts, hxts⟩, -⟩ := (Terms.mem_parse_general s).1 hx
      exact ⟨ts, .inl hts, hxts⟩
    · obtain ⟨⟨ts, hts, hxts⟩, -⟩ := (Terms.mem_parse_districts s).1 hx
      exact ⟨ts, .inr hts, hxts⟩
  rcases hts with hts | hts
  · obtain ⟨p, hp, hw⟩ := withinWords_of_mem_contributions hts
    exact ⟨p, hp, by simpa [hnormal] using hw x hxts⟩
  · obtain ⟨p, hp, hw⟩ := withinWords_of_mem_contributions hts
    exact ⟨p, hp, by simpa [hnormal] using hw x hxts⟩

theorem terms_within_part_words_of_cut_name :
    "ище" ∈ (Terms.parse "Городище").general ++ (Terms.parse "Городище").districts ∧
      ∃ p ∈ Query.parts "Городище", ∃ w ∈ Text.normalWords (Text.lowercase p).toList,
        "ище".toList <:+: w := by
  have hmem : "ище" ∈ (Terms.parse "Городище").general ++ (Terms.parse "Городище").districts := by
    decide +kernel
  exact ⟨hmem, terms_within_part_words "Городище" "ище" hmem⟩

/-- The affix word for "city" is stripped from the start of the place name `Городище`, leaving the
general term `ище`, which is no whole word of the query's only part. -/
theorem parse_cuts_into_place_name :
    ¬ ∀ x ∈ (Terms.parse "Городище").general, ∃ p ∈ Query.parts "Городище",
      x.toList ∈ Text.normalWords (Text.lowercase p).toList := by
  have hgeneral : (Terms.parse "Городище").general = ["ище"] := by decide +kernel
  have hparts : Query.parts "Городище" = ["Городище"] := by decide +kernel
  have hwords : Text.normalWords (Text.lowercase "Городище").toList = ["городище".toList] := by
    decide +kernel
  simp [hgeneral, hparts, hwords]

end RevenueOffice
