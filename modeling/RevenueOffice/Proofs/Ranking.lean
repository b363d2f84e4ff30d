import Mathlib.Data.List.Find
import RevenueOffice.Ranking

/-!
# The first ranked candidate

Ranking is a stable sort by score, highest first. Its first candidate is therefore the first one,
in the order given, whose score no candidate exceeds, and the offices and scores a ranking lists
depend only on the offices and scores it is given. Choosing from a ranking reads its first
candidate alone.
-/

set_option autoImplicit false

namespace RevenueOffice

/-- The first candidate, in the order given, whose score no candidate exceeds. -/
def firstBest (cs : List Candidate) : Option Candidate :=
  cs.find? fun c => cs.all fun d => d.score ≤ c.score

def Candidate.standing (c : Candidate) : Office × Int := (c.office, c.score)

theorem rank_perm (cs : List Candidate) : (rank cs).Perm cs := List.mergeSort_perm _ _

theorem rank_eq_nil_iff (cs : List Candidate) : rank cs = [] ↔ cs = [] :=
  ⟨fun h => List.Perm.eq_nil (h ▸ (rank_perm cs).symm), fun h => by simp [h, rank]⟩

theorem ranks_before_trans (a b c : Candidate) (hab : decide (b.score ≤ a.score) = true)
    (hbc : decide (c.score ≤ b.score) = true) : decide (c.score ≤ a.score) = true := by
  simp only [decide_eq_true_eq] at *
  omega

theorem ranks_before_total (a b : Candidate) :
    (decide (b.score ≤ a.score) || decide (a.score ≤ b.score)) = true := by
  simp only [Bool.or_eq_true, decide_eq_true_eq]
  omega

theorem rank_pairwise (cs : List Candidate) :
    (rank cs).Pairwise fun a b => b.score ≤ a.score := by
  have h := List.pairwise_mergeSort ranks_before_trans ranks_before_total cs
  simpa only [rank, decide_eq_true_eq] using h

theorem rank_cons (a : Candidate) (cs : List Candidate) :
    ∃ l₁ l₂, rank (a :: cs) = l₁ ++ a :: l₂ ∧ rank cs = l₁ ++ l₂ ∧
      ∀ b ∈ l₁, a.score < b.score := by
  obtain ⟨l₁, l₂, h₁, h₂, h₃⟩ := List.mergeSort_cons ranks_before_trans ranks_before_total a cs
  refine ⟨l₁, l₂, h₁, h₂, fun b hb => ?_⟩
  have hb := h₃ b hb
  simp only [Bool.not_eq_true', decide_eq_false_iff_not] at hb
  omega

theorem firstBest_cons_of_best {a : Candidate} {cs : List Candidate}
    (h : ∀ d ∈ cs, d.score ≤ a.score) : firstBest (a :: cs) = some a := by
  apply List.find?_cons_of_pos
  simpa using h

theorem firstBest_cons_of_lt {a d : Candidate} {cs : List Candidate} (hd : d ∈ cs)
    (h : a.score < d.score) : firstBest (a :: cs) = firstBest cs := by
  unfold firstBest
  rw [List.find?_cons_of_neg (by simpa using ⟨d, hd, h⟩)]
  apply List.find?_congr
  intro c _
  rw [List.all_cons]
  cases hc : cs.all fun d => decide (d.score ≤ c.score) with
  | false => simp
  | true =>
    -- a candidate that no later one outscores also outscores `a`
    have hdc : d.score ≤ c.score := by simpa using List.all_eq_true.1 hc d hd
    simp only [Bool.and_true, decide_eq_true_eq]
    omega

/-- The first ranked candidate is the first best one: ties go to the earliest candidate. -/
theorem head?_rank (cs : List Candidate) : (rank cs).head? = firstBest cs := by
  induction cs with
  | nil => simp [rank, firstBest]
  | cons a cs ih =>
    obtain ⟨l₁, l₂, hcons, hrest, hbefore⟩ := rank_cons a cs
    by_cases hbest : ∀ d ∈ cs, d.score ≤ a.score
    · -- nothing outscores `a`, so nothing is ranked before it
      have hnil : l₁ = [] := by
        apply List.eq_nil_iff_forall_not_mem.2
        intro b hb
        have hbcs : b ∈ cs := (rank_perm cs).subset (by simp [hrest, hb])
        have := hbest b hbcs
        have := hbefore b hb
        omega
      rw [hcons, hnil, firstBest_cons_of_best hbest]
      rfl
    · -- some later candidate outscores `a`, so the ranking of the rest starts the same way
      push Not at hbest
      obtain ⟨d, hd, hlt⟩ := hbest
      have hne : l₁ ≠ [] := by
        rintro rfl
        have hsorted := rank_pairwise (a :: cs)
        rw [hcons, List.nil_append, List.pairwise_cons] at hsorted
        have hdrank : d ∈ l₂ := by simpa [hrest] using (rank_perm cs).symm.subset hd
        have := hsorted.1 d hdrank
        omega
      obtain ⟨b, l₁, rfl⟩ := List.exists_cons_of_ne_nil hne
      rw [firstBest_cons_of_lt hd hlt, ← ih, hcons, hrest]
      rfl

theorem map_standing_rank (cs : List Candidate) :
    (rank cs).map Candidate.standing =
      (cs.map Candidate.standing).mergeSort fun x y => decide (y.2 ≤ x.2) :=
  List.map_mergeSort fun _ _ _ _ => rfl

theorem map_standing_rank_congr {cs ds : List Candidate}
    (h : cs.map Candidate.standing = ds.map Candidate.standing) :
    (rank cs).map Candidate.standing = (rank ds).map Candidate.standing := by
  rw [map_standing_rank, map_standing_rank, h]

theorem tooLow_eq_true_iff {minConfidence score : Int} {t : Terms} :
    tooLow minConfidence score t = true ↔ score < minConfidence ∧ 1 < t.all.length := by
  simp [tooLow]

theorem chooseRanked_fst (ranked : List Candidate) (t : Terms) (minConfidence : Int) :
    (chooseRanked ranked t minConfidence).1 =
      ranked.head?.filter fun c => !tooLow minConfidence c.score t := by
  cases ranked with
  | nil => rfl
  | cons best rest =>
    by_cases h : tooLow minConfidence best.score t
    · have hmany := (tooLow_eq_true_iff.1 h).2
      match hall : t.all, hmany with
      | _ :: _ :: _, _ => simp [chooseRanked, Option.filter, h, hall]
    · simp [chooseRanked, Option.filter, h]

end RevenueOffice
