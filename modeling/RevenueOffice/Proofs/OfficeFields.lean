import Mathlib
import RevenueOffice.Proofs.RegionNames

/-!
# The fields of an office

An office keeps its name and region as written, trimmed, with an empty region as none, and
derives the rest from them. Every distinguishing word of its name is a word of a normal form with
two letters or more or with a digit, so no word is empty and none holds a blank, a comma or a full
stop; its normal region name, if any, is nonempty and normal; and it is a district office exactly
when its lowercase name contains `район`. So the substring tests that matching makes on words and
region names never hold of an empty text.
-/

set_option autoImplicit false

namespace RevenueOffice

namespace OfficeName

/-- A word that tells offices apart: a nonempty word of a normal form, so without blanks, commas
or full stops, with two letters or more or with a decimal digit. -/
structure IsToken (tok : String) : Prop where
  ne_empty : tok ≠ ""
  no_break : ∀ c ∈ tok.toList, Text.isBlank c = false ∧ c ≠ ',' ∧ c ≠ '.'
  normal : Text.normalize tok = tok
  long_or_digit : 2 ≤ tok.length ∨ ∃ c ∈ tok.toList, Text.isDecimalDigit c = true

theorem not_break_of_isWordBreak {c : Char} (h : Text.isWordBreak c = false) :
    Text.isBlank c = false ∧ c ≠ ',' ∧ c ≠ '.' := by
  simp only [Text.isWordBreak, Bool.or_eq_false_iff, beq_eq_false_iff_ne] at h
  exact ⟨h.1.1, h.1.2, h.2⟩

theorem isToken_of_keepsWord {w : List Char} (hw : Text.IsNormalWord w)
    (hkeep : keepsWord w = true) : IsToken (String.ofList w) := by
  obtain ⟨hne, hnormal⟩ := Query.IsWordTerm.normal ⟨w, hw, rfl⟩
  refine ⟨hne, fun c hc => not_break_of_isWordBreak (hw.2 c (by simpa using hc)).2, hnormal, ?_⟩
  simp only [keepsWord, Bool.or_eq_true, decide_eq_true_eq, List.any_eq_true] at hkeep
  simpa [Nat.succ_le_iff] using hkeep

theorem isToken_of_mem_tokens {name tok : String} (h : tok ∈ tokens name) : IsToken tok := by
  obtain ⟨w, hw, rfl⟩ := List.mem_map.1 h
  obtain ⟨hmem, hkeep⟩ := List.mem_filter.1 hw
  exact isToken_of_keepsWord (Text.isNormalWord_of_mem_normalWords hmem) hkeep

theorem namesDistrict_iff (name : String) :
    namesDistrict name = true ↔ "район".toList <:+: (Text.lowercase name).toList := by
  simp only [namesDistrict, Text.occursIn_iff, Text.lowercase, String.toList_ofList]

end OfficeName

namespace Region

theorem normalName_eq_some {region r : String} (h : normalName region = some r) :
    r ≠ "" ∧ Text.normalize r = r := by
  obtain ⟨cs, hcs, rfl⟩ := Option.map_eq_some_iff.1 h
  obtain ⟨hne, hnormal⟩ := normalChars_eq_some hcs
  exact ⟨by simpa using hne, by simp [Text.normalize, hnormal]⟩

end Region

namespace Office

/-- What an office derives from its written fields: distinguishing words that are tokens, a
normal region name that is nonempty and normal, and the district flag exactly when the lowercase
name contains `район`. -/
structure Derived (o : Office) : Prop where
  tokens : ∀ tok ∈ o.nameTokens, OfficeName.IsToken tok
  normalRegion : ∀ r, o.normalRegion = some r → r ≠ "" ∧ Text.normalize r = r
  isDistrict_iff : o.isDistrict = true ↔ "район".toList <:+: (Text.lowercase o.name).toList

section Build

variable (code bin : Option String) (name : String) (region : Option String)

@[simp] theorem build_name : (build code bin name region).name = Text.trim name := by
  simp only [build]

@[simp] theorem build_region :
    (build code bin name region).region = (region.map Text.trim).filter (· ≠ "") := by
  simp only [build]

@[simp] theorem build_nameTokens :
    (build code bin name region).nameTokens = OfficeName.tokens (Text.trim name) := by
  simp only [build]

@[simp] theorem build_normalRegion :
    (build code bin name region).normalRegion =
      ((region.map Text.trim).filter (· ≠ "")).bind Region.normalName := by
  simp only [build]

@[simp] theorem build_isDistrict :
    (build code bin name region).isDistrict = OfficeName.namesDistrict (Text.trim name) := by
  simp only [build]

theorem build_isDerived : (build code bin name region).Derived where
  tokens tok htok := by
    rw [build_nameTokens] at htok
    exact OfficeName.isToken_of_mem_tokens htok
  normalRegion r hr := by
    rw [build_normalRegion] at hr
    obtain ⟨g, -, hg⟩ := Option.bind_eq_some_iff.1 hr
    exact Region.normalName_eq_some hg
  isDistrict_iff := by
    rw [build_isDistrict, build_name]
    exact OfficeName.namesDistrict_iff (Text.trim name)

/-- An office keeps its name and region trimmed, an empty region as none, and derives its
fields as `Derived` says. -/
theorem build_fields_derived :
    (build code bin name region).name = Text.trim name ∧
      (build code bin name region).region = (region.map Text.trim).filter (· ≠ "") ∧
      (build code bin name region).Derived :=
  ⟨build_name .., build_region .., build_isDerived ..⟩

end Build

end Office

end RevenueOffice
