import RevenueOffice.Query.Terms

/-!
# The terms of a query as sets

Each part of a query contributes its terms on its own, and every kind of term is listed once. So
the terms a query yields, kind by kind, depend only on the set of its parts: listing the parts in
another order or repeating some of them permutes each list of terms and changes nothing else.
-/

set_option autoImplicit false

namespace RevenueOffice

theorem mem_firstOccurrencesFrom {x : String} (seen xs : List String) :
    x ∈ firstOccurrencesFrom seen xs ↔ x ∈ xs ∧ x ∉ seen := by
  induction xs generalizing seen with
  | nil => simp [firstOccurrencesFrom]
  | cons y ys ih =>
    by_cases hy : y ∈ seen
    · simp only [firstOccurrencesFrom, List.contains_iff_mem, hy, ↓reduceIte, ih,
        List.mem_cons]
      constructor
      · exact fun h => ⟨.inr h.1, h.2⟩
      · rintro ⟨rfl | h, hx⟩
        · exact absurd hy hx
        · exact ⟨h, hx⟩
    · simp only [firstOccurrencesFrom, List.contains_iff_mem, hy, ↓reduceIte, List.mem_cons, ih]
      constructor
      · rintro (rfl | ⟨h, hx⟩)
        · exact ⟨.inl rfl, hy⟩
        · exact ⟨.inr h, fun h' => hx (.inr h')⟩
      · rintro ⟨rfl | h, hx⟩
        · exact .inl rfl
        · by_cases hxy : x = y
          · exact .inl hxy
          · exact .inr ⟨h, fun h' => h'.elim hxy hx⟩

theorem nodup_firstOccurrencesFrom (seen xs : List String) :
    (firstOccurrencesFrom seen xs).Nodup := by
  induction xs generalizing seen with
  | nil => simp [firstOccurrencesFrom]
  | cons y ys ih =>
    by_cases hy : y ∈ seen
    · simpa [firstOccurrencesFrom, hy] using ih seen
    · simp only [firstOccurrencesFrom, List.contains_iff_mem, hy, ↓reduceIte]
      -- a later first occurrence is never `y` again, since `y` is then seen
      refine List.nodup_cons.2 ⟨fun h => ?_, ih _⟩
      exact ((mem_firstOccurrencesFrom _ _).1 h).2 List.mem_cons_self

@[simp] theorem mem_firstOccurrences {x : String} (xs : List String) :
    x ∈ firstOccurrences xs ↔ x ∈ xs := by
  simp [firstOccurrences, mem_firstOccurrencesFrom]

theorem nodup_firstOccurrences (xs : List String) : (firstOccurrences xs).Nodup :=
  nodup_firstOccurrencesFrom [] xs

theorem firstOccurrences_perm {xs ys : List String} (h : ∀ x, x ∈ xs ↔ x ∈ ys) :
    (firstOccurrences xs).Perm (firstOccurrences ys) :=
  (List.perm_ext_iff_of_nodup (nodup_firstOccurrences xs) (nodup_firstOccurrences ys)).2
    fun x => by simp [h]

namespace Query

theorem mem_regionsOf {x : String} (ps : List PartTerms) :
    x ∈ regionsOf ps ↔ PartTerms.region x ∈ ps := by
  induction ps with
  | nil => simp [regionsOf]
  | cons p ps ih => cases p <;> simp [regionsOf, ih, eq_comm]

theorem mem_districtsOf {x : String} (ps : List PartTerms) :
    x ∈ districtsOf ps ↔ ∃ ts, PartTerms.district ts ∈ ps ∧ x ∈ ts := by
  induction ps with
  | nil => simp [districtsOf]
  | cons p ps ih => cases p <;> simp [districtsOf, ih, or_and_right, exists_or]

theorem mem_generalOf {x : String} (ps : List PartTerms) :
    x ∈ generalOf ps ↔ ∃ ts, PartTerms.general ts ∈ ps ∧ x ∈ ts := by
  induction ps with
  | nil => simp [generalOf]
  | cons p ps ih => cases p <;> simp [generalOf, ih, or_and_right, exists_or]

/-- What the parts of a query contribute, part by part. -/
def contributions (q : String) : List PartTerms :=
  (partChars q.toList).map fun p => partTerms (Text.lowerFrom false p)

end Query

namespace Terms

variable (q : String) {x : String}

theorem mem_parse_regions :
    x ∈ (parse q).regions ↔ Query.PartTerms.region x ∈ Query.contributions q := by
  simp [parse, Query.contributions, Query.mem_regionsOf]

theorem mem_parse_districts :
    x ∈ (parse q).districts ↔
      (∃ ts, Query.PartTerms.district ts ∈ Query.contributions q ∧ x ∈ ts) ∧ 1 < x.length := by
  simp [parse, Query.contributions, Query.mem_districtsOf]

theorem mem_parse_general :
    x ∈ (parse q).general ↔ (∃ ts, Query.PartTerms.general ts ∈ Query.contributions q ∧ x ∈ ts) ∧
      x ∉ (parse q).regions ∧ x ∉ (parse q).districts := by
  -- general terms are filtered against the region and district terms already read
  have hgeneral : (parse q).general = firstOccurrences
      ((Query.generalOf (Query.contributions q)).filter
        fun t => !(parse q).regions.contains t && !(parse q).districts.contains t) := rfl
  rw [hgeneral]
  simp [Query.mem_generalOf]

theorem mem_parse_all :
    x ∈ (parse q).all ↔ x ∈ (parse q).regions ∨ x ∈ (parse q).districts ∨ x ∈ (parse q).general := by
  simp [parse]

theorem nodup_parse_regions : (parse q).regions.Nodup := nodup_firstOccurrences _

theorem nodup_parse_districts : (parse q).districts.Nodup := nodup_firstOccurrences _

theorem nodup_parse_general : (parse q).general.Nodup := nodup_firstOccurrences _

theorem nodup_parse_all : (parse q).all.Nodup := nodup_firstOccurrences _

theorem parse_eq_of_contributions {q₁ q₂ : String}
    (h : Query.contributions q₁ = Query.contributions q₂) :
    parse q₁ = { parse q₂ with raw := q₁ } := by
  have h' : (Query.partChars q₁.toList).map (fun p => Query.partTerms (Text.lowerFrom false p)) =
      (Query.partChars q₂.toList).map (fun p => Query.partTerms (Text.lowerFrom false p)) := h
  simp only [parse, h']

/-- Two readings with the same terms of each kind, each list in some order. -/
structure Alike (t₁ t₂ : Terms) : Prop where
  regions : t₁.regions.Perm t₂.regions
  districts : t₁.districts.Perm t₂.districts
  general : t₁.general.Perm t₂.general
  all : t₁.all.Perm t₂.all

variable {q₁ q₂ : String}

theorem parse_alike (h : ∀ pt, pt ∈ Query.contributions q₁ ↔ pt ∈ Query.contributions q₂) :
    (parse q₁).Alike (parse q₂) := by
  have hregions : ∀ x, x ∈ (parse q₁).regions ↔ x ∈ (parse q₂).regions := by
    simp [mem_parse_regions, h]
  have hdistricts : ∀ x, x ∈ (parse q₁).districts ↔ x ∈ (parse q₂).districts := by
    simp [mem_parse_districts, h]
  have hgeneral : ∀ x, x ∈ (parse q₁).general ↔ x ∈ (parse q₂).general := by
    simp [mem_parse_general, hregions, hdistricts, h]
  have hall : ∀ x, x ∈ (parse q₁).all ↔ x ∈ (parse q₂).all := by
    simp [mem_parse_all, hregions, hdistricts, hgeneral]
  -- every kind of term is the first occurrences of a list, so equal members give a permutation
  have hperm {xs ys : List String} (h : ∀ x, x ∈ firstOccurrences xs ↔ x ∈ firstOccurrences ys) :
      (firstOccurrences xs).Perm (firstOccurrences ys) :=
    firstOccurrences_perm fun x => by simpa using h x
  exact ⟨hperm hregions, hperm hdistricts, hperm hgeneral, hperm hall⟩

/-- Queries whose parts are the same set, in any order and with any repetitions, yield alike
terms. -/
theorem parse_alike_of_parts (h : ∀ p, p ∈ Query.parts q₁ ↔ p ∈ Query.parts q₂) :
    (parse q₁).Alike (parse q₂) := by
  -- parts are compared as texts; the contributions are read from their characters
  have hchars : ∀ cs, cs ∈ Query.partChars q₁.toList ↔ cs ∈ Query.partChars q₂.toList := by
    intro cs
    have := h (String.ofList cs)
    simpa [Query.parts, String.ofList_inj] using this
  apply parse_alike
  intro pt
  simp only [Query.contributions, List.mem_map, hchars]

end Terms

end RevenueOffice
