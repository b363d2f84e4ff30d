import Mathlib
import RevenueOffice.Text.Normal

/-!
# Lowercasing twice changes nothing

A character that the case table maps lands on a code point that no run of the table maps, and
never on the capital I with dot above; this is checked once over every pair of runs. So the simple
mapping is idempotent, no lowercase character is one of the two capitals with special rules, and
lowercasing a lowercased text, in any context, gives it back.
-/

set_option autoImplicit false

namespace RevenueOffice.Text

def CaseRun.imageMisses (r q : CaseRun) : Bool :=
  let a : Int := r.first + r.shift
  let b : Int := r.last + r.shift
  b < q.first || q.last < a ||
    (q.step == 2 && (r.step == 2 || r.first == r.last) && (a - q.first) % 2 == 1)

def dottedCapitalRun : CaseRun := ⟨0x130, 0x130, 1, 0⟩

/-- Whether the table maps code points to code points that it leaves alone and that are not the
capital I with dot above. -/
def lowercaseRunsStable : Bool :=
  lowercaseRuns.all fun r =>
    decide (0 ≤ (r.first : Int) + r.shift) && (dottedCapitalRun :: lowercaseRuns).all r.imageMisses

set_option maxRecDepth 100000 in
theorem lowercaseRunsStable_eq_true : lowercaseRunsStable = true := by decide +kernel

theorem CaseRun.covers_eq_false_of_imageMisses {r q : CaseRun} (h : r.imageMisses q = true)
    (hpos : 0 ≤ (r.first : Int) + r.shift) {n : Nat} (hn : r.covers n = true) :
    q.covers (n + r.shift).toNat = false := by
  simp only [covers, Bool.and_eq_true, decide_eq_true_eq, beq_iff_eq] at hn
  simp only [imageMisses, Bool.or_eq_true, decide_eq_true_eq, Bool.and_eq_true, beq_iff_eq] at h
  simp only [covers, Bool.and_eq_false_iff, decide_eq_false_iff_not, beq_eq_false_iff_ne]
  obtain ⟨⟨hlo, hhi⟩, hstep⟩ := hn
  rcases h with (hb | ha) | ⟨⟨hq, hr⟩, hodd⟩
  · exact .inl (.inl (by omega))
  · exact .inl (.inr (by omega))
  · -- above `q.first`, the image has the parity of `a` and the runs of `q` the other one
    by_cases hm : q.first ≤ (n + r.shift).toNat
    · rw [hq]
      rcases hr with hr | hr
      · rw [hr] at hstep
        exact .inr (by omega)
      · exact .inr (by omega)
    · exact .inl (.inl hm)

theorem lowerCode_cases (rs : List CaseRun) (n : Nat) :
    lowerCode rs n = n ∨ ∃ r ∈ rs, r.covers n = true ∧ lowerCode rs n = (n + r.shift).toNat := by
  induction rs with
  | nil => exact .inl rfl
  | cons r rs ih =>
    simp only [lowerCode]
    split
    · exact .inl rfl
    · split
      · next hcov => exact .inr ⟨r, List.mem_cons_self, hcov, rfl⟩
      · rcases ih with h | ⟨q, hq, hcov, h⟩
        · exact .inl h
        · exact .inr ⟨q, List.mem_cons_of_mem r hq, hcov, h⟩

theorem lowerCode_of_not_covers (rs : List CaseRun) {n : Nat} (h : ∀ r ∈ rs, r.covers n = false) :
    lowerCode rs n = n := by
  induction rs with
  | nil => rfl
  | cons r rs ih =>
    have hr := h r List.mem_cons_self
    simp only [lowerCode, hr, Bool.false_eq_true, ↓reduceIte]
    split
    · rfl
    · exact ih fun q hq => h q (List.mem_cons_of_mem r hq)

theorem lowerCode_mapped {n : Nat} (hn : lowerCode lowercaseRuns n ≠ n) :
    (∀ q ∈ lowercaseRuns, q.covers (lowerCode lowercaseRuns n) = false) ∧
      lowerCode lowercaseRuns n ≠ 0x130 := by
  obtain h | ⟨r, hr, hcov, h⟩ := lowerCode_cases lowercaseRuns n
  · exact absurd h hn
  have hstable := List.all_eq_true.1 lowercaseRunsStable_eq_true r hr
  simp only [Bool.and_eq_true, decide_eq_true_eq, List.all_eq_true] at hstable
  obtain ⟨hpos, hmiss⟩ := hstable
  rw [h]
  refine ⟨fun q hq => CaseRun.covers_eq_false_of_imageMisses (hmiss q (.tail _ hq)) hpos hcov, ?_⟩
  have hdot :=
    CaseRun.covers_eq_false_of_imageMisses (hmiss dottedCapitalRun List.mem_cons_self) hpos hcov
  intro heq
  rw [heq] at hdot
  exact absurd hdot (by decide)

theorem lowerCode_lowerCode (n : Nat) :
    lowerCode lowercaseRuns (lowerCode lowercaseRuns n) = lowerCode lowercaseRuns n := by
  by_cases hn : lowerCode lowercaseRuns n = n
  · rw [hn, hn]
  · exact lowerCode_of_not_covers _ (lowerCode_mapped hn).1

theorem simpleLower_simpleLower (c : Char) : simpleLower (simpleLower c) = simpleLower c := by
  -- a code point that is no scalar value becomes `'\0'`, which the table leaves alone
  have hcode : lowerCode lowercaseRuns (Char.ofNat (lowerCode lowercaseRuns c.toNat)).toNat =
      (Char.ofNat (lowerCode lowercaseRuns c.toNat)).toNat := by
    rw [Char.toNat_ofNat]
    split
    · exact lowerCode_lowerCode _
    · rfl
  rw [simpleLower, simpleLower, hcode, Char.ofNat_toNat]

theorem simpleLower_ne_capitalSigma (c : Char) : simpleLower c ≠ 'Σ' := by
  intro h
  have hidem := simpleLower_simpleLower c
  rw [h] at hidem
  exact absurd hidem (by decide)

theorem simpleLower_ne_dottedCapital {c : Char} (hc : c ≠ 'İ') : simpleLower c ≠ 'İ' := by
  intro h
  by_cases hn : lowerCode lowercaseRuns c.toNat = c.toNat
  · rw [simpleLower, hn, Char.ofNat_toNat] at h
    exact hc h
  · apply (lowerCode_mapped hn).2
    have hnat := congrArg Char.toNat h
    rw [simpleLower, Char.toNat_ofNat] at hnat
    split at hnat
    · exact hnat
    · exact absurd hnat (by decide)

/-- A character that lowercasing leaves alone in any context: the simple mapping fixes it and it
is neither capital with a special rule. -/
def IsLowered (c : Char) : Prop := simpleLower c = c ∧ c ≠ 'İ' ∧ c ≠ 'Σ'

theorem isLowered_simpleLower {c : Char} (hc : c ≠ 'İ') : IsLowered (simpleLower c) :=
  ⟨simpleLower_simpleLower c, simpleLower_ne_dottedCapital hc, simpleLower_ne_capitalSigma c⟩

theorem lowerFrom_of_isLowered (afterCased : Bool) {cs : List Char} (h : ∀ c ∈ cs, IsLowered c) :
    lowerFrom afterCased cs = cs := by
  induction cs generalizing afterCased with
  | nil => rfl
  | cons c cs ih =>
    obtain ⟨hlow, hdot, hsigma⟩ := h c List.mem_cons_self
    simp only [lowerFrom, hdot, hsigma, ↓reduceIte, hlow, List.singleton_append]
    rw [ih _ fun d hd => h d (List.mem_cons_of_mem c hd)]

theorem isLowered_of_mem_lowerFrom (afterCased : Bool) (cs : List Char) :
    ∀ c ∈ lowerFrom afterCased cs, IsLowered c := by
  induction cs generalizing afterCased with
  | nil => simp [lowerFrom]
  | cons c cs ih =>
    intro d hd
    simp only [lowerFrom, List.mem_append] at hd
    rcases hd with hd | hd
    · -- the characters written for `c`: a dotless i with a combining dot, a small sigma, or
      -- the simple mapping of `c`
      split at hd
      · simp only [List.mem_cons, List.not_mem_nil, or_false] at hd
        rcases hd with rfl | rfl
        · exact ⟨by decide +kernel, by decide, by decide⟩
        · exact ⟨by decide +kernel, by decide, by decide⟩
      · split at hd
        · simp only [List.mem_cons, List.not_mem_nil, or_false] at hd
          split at hd <;> subst hd
          · exact ⟨by decide +kernel, by decide, by decide⟩
          · exact ⟨by decide +kernel, by decide, by decide⟩
        · next hdot _ =>
          simp only [List.mem_cons, List.not_mem_nil, or_false] at hd
          subst hd
          exact isLowered_simpleLower hdot
    · exact ih _ d hd

theorem lowerFrom_lowerFrom (afterCased afterCased' : Bool) (cs : List Char) :
    lowerFrom afterCased' (lowerFrom afterCased cs) = lowerFrom afterCased cs :=
  lowerFrom_of_isLowered afterCased' (isLowered_of_mem_lowerFrom afterCased cs)

theorem lowercase_lowercase (s : String) : lowercase (lowercase s) = lowercase s := by
  simp [lowercase, lowerFrom_lowerFrom]

end RevenueOffice.Text
