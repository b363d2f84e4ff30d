import Mathlib
import RevenueOffice.Proofs.NormalForm
import RevenueOffice.Proofs.TermSets

/-!
# The shape of the terms of a query

Every reading of a query is well formed: each list of terms is free of repetitions, no general term
is also a region or district term, and all terms are the region, district and general terms in
that order, each once. Every term is a nonempty text in normal form; a district or general term
is a single word, with no space in it, and a district term has at least two letters. The reason
is that each part contributes either the normal name of a region, or words of a normal form.
-/

set_option autoImplicit false

namespace RevenueOffice

/-- What every reading of a query satisfies. -/
structure Terms.WellFormed (t : Terms) : Prop where
  nodup_regions : t.regions.Nodup
  nodup_districts : t.districts.Nodup
  nodup_general : t.general.Nodup
  nodup_all : t.all.Nodup
  general_fresh : ∀ x ∈ t.general, x ∉ t.regions ∧ x ∉ t.districts
  all_eq : t.all = firstOccurrences (t.regions ++ t.districts ++ t.general)
  normal : ∀ x ∈ t.all, x ≠ "" ∧ Text.normalize x = x
  two_letters : ∀ x ∈ t.districts, 2 ≤ x.length
  no_space : ∀ x ∈ t.districts ++ t.general, ' ' ∉ x.toList

theorem firstOccurrences_eq_nil_iff (xs : List String) : firstOccurrences xs = [] ↔ xs = [] := by
  simp only [List.eq_nil_iff_forall_not_mem, mem_firstOccurrences]

theorem Terms.WellFormed.isEmpty_iff {t : Terms} (h : t.WellFormed) :
    t.isEmpty = true ↔ t.regions = [] ∧ t.districts = [] ∧ t.general = [] := by
  rw [Terms.isEmpty, List.isEmpty_iff, h.all_eq, firstOccurrences_eq_nil_iff]
  simp

namespace Region

theorem normalChars_eq_some {region r : List Char} (h : normalChars region = some r) :
    r ≠ [] ∧ Text.normalChars r = r := by
  unfold normalChars at h
  split at h
  · exact absurd h (by simp)
  · next hne =>
    obtain rfl := Option.some.inj h
    exact ⟨hne, Text.normalChars_normalChars _⟩

end Region

namespace Query

def IsWordTerm (x : String) : Prop := ∃ w, Text.IsNormalWord w ∧ x = String.ofList w

/-- What a part may contribute: the nonempty normal name of a region, or words of normal forms. -/
def PartTerms.Normal : PartTerms → Prop
  | .region x => x ≠ "" ∧ Text.normalize x = x
  | .district ts => ∀ x ∈ ts, IsWordTerm x
  | .general ts => ∀ x ∈ ts, IsWordTerm x

theorem IsWordTerm.normal {x : String} (h : IsWordTerm x) : x ≠ "" ∧ Text.normalize x = x := by
  obtain ⟨w, hw, rfl⟩ := h
  exact ⟨by simpa using hw.1, by simp [Text.normalize, Text.normalChars_of_isNormalWord hw]⟩

theorem IsWordTerm.no_space {x : String} (h : IsWordTerm x) : ' ' ∉ x.toList := by
  obtain ⟨w, hw, rfl⟩ := h
  intro hsp
  have hbreak := (hw.2 ' ' (by simpa using hsp)).2
  exact absurd hbreak (by decide)

theorem isWordTerm_of_mem_normalWords {cs : List Char} {x : String}
    (h : x ∈ (Text.normalWords cs).map String.ofList) : IsWordTerm x := by
  obtain ⟨w, hw, rfl⟩ := List.mem_map.1 h
  exact ⟨w, Text.isNormalWord_of_mem_normalWords hw, rfl⟩

theorem normal_general (c : Bool) (cs ds : List Char) :
    (PartTerms.general
      ((if c then Text.normalWords cs else Text.normalWords ds).map String.ofList)).Normal := by
  intro x hx
  split at hx <;> exact isWordTerm_of_mem_normalWords hx

theorem partTerms_normal (low : List Char) : (partTerms low).Normal := by
  unfold partTerms
  split
  · next r hr =>
    have hname : Region.normalChars low = some r := by
      split at hr
      · exact hr
      · exact absurd hr (by simp)
    obtain ⟨hne, hnormal⟩ := Region.normalChars_eq_some hname
    exact ⟨by simpa using hne, by simp [Text.normalize, hnormal]⟩
  · dsimp only
    split
    · split
      · -- the district words are the words of the part's core with two letters or more
        intro x hx
        obtain ⟨w, hw, rfl⟩ := List.mem_map.1 hx
        exact ⟨w, Text.isNormalWord_of_mem_normalWords (List.mem_filter.1 hw).1, rfl⟩
      · exact normal_general _ _ _
    · simp only [List.isEmpty_nil, Bool.not_true, Bool.false_eq_true, ↓reduceIte]
      exact normal_general _ _ _

end Query

namespace Terms

variable (q : String)

theorem normal_of_mem_contributions {pt : Query.PartTerms} (h : pt ∈ Query.contributions q) :
    pt.Normal := by
  obtain ⟨p, -, rfl⟩ := List.mem_map.1 h
  exact Query.partTerms_normal _

theorem isWordTerm_of_mem_parse_districts {x : String} (hx : x ∈ (parse q).districts) :
    Query.IsWordTerm x := by
  obtain ⟨⟨ts, hts, hxts⟩, -⟩ := (mem_parse_districts q).1 hx
  exact normal_of_mem_contributions q hts x hxts

theorem isWordTerm_of_mem_parse_general {x : String} (hx : x ∈ (parse q).general) :
    Query.IsWordTerm x := by
  obtain ⟨⟨ts, hts, hxts⟩, -⟩ := (mem_parse_general q).1 hx
  exact normal_of_mem_contributions q hts x hxts

theorem parse_wellFormed : (parse q).WellFormed where
  nodup_regions := nodup_parse_regions q
  nodup_districts := nodup_parse_districts q
  nodup_general := nodup_parse_general q
  nodup_all := nodup_parse_all q
  general_fresh := fun _ hx => ((mem_parse_general q).1 hx).2
  all_eq := rfl
  normal := by
    intro x hx
    rcases (mem_parse_all q).1 hx with hx | hx | hx
    · exact normal_of_mem_contributions q ((mem_parse_regions q).1 hx)
    · exact (isWordTerm_of_mem_parse_districts q hx).normal
    · exact (isWordTerm_of_mem_parse_general q hx).normal
  two_letters := fun _ hx => ((mem_parse_districts q).1 hx).2
  no_space := by
    intro x hx
    rcases List.mem_append.1 hx with hx | hx
    · exact (isWordTerm_of_mem_parse_districts q hx).no_space
    · exact (isWordTerm_of_mem_parse_general q hx).no_space

/-- A missing query reads as the empty text. Its reading keeps the query, is well formed, and
finds no term exactly when it finds no term of any kind. -/
theorem parse_query_wellFormed (query : Option String) :
    (parse (query.getD "")).raw = query.getD "" ∧ (parse (query.getD "")).WellFormed ∧
      ((parse (query.getD "")).isEmpty = true ↔ (parse (query.getD "")).regions = [] ∧
        (parse (query.getD "")).districts = [] ∧ (parse (query.getD "")).general = []) :=
  ⟨rfl, parse_wellFormed _, (parse_wellFormed _).isEmpty_iff⟩

end Terms

end RevenueOffice
