import Mathlib
import RevenueOffice.Proofs.Ranking

/-!
# Choosing the best candidate

Ranking lists the candidates it is given, best score first, and keeps the candidates of one score
in their given order. Choosing ranks the candidates and reads the first one: it finds nothing
exactly when there is no candidate, or when every score is below the confidence threshold and the
query has more than one term; otherwise it finds the first candidate, in the order given, of the
highest score. The fallback for a rejected query of a single term is never reached.
-/

set_option autoImplicit false

namespace RevenueOffice

theorem filter_rank_score (cs : List Candidate) (v : Int) :
    (rank cs).filter (fun c => c.score == v) = cs.filter (fun c => c.score == v) := by
  -- the candidates of one score are in ranking order already, so the merge sort keeps them
  have hsorted : (cs.filter fun c => c.score == v).Pairwise
      fun a b => decide (b.score ≤ a.score) = true := by
    apply List.pairwise_of_forall_mem_list
    intro a ha b hb
    simp only [List.mem_filter, beq_iff_eq] at ha hb
    simp [ha.2, hb.2]
  have hsub : (cs.filter fun c => c.score == v).Sublist (rank cs) :=
    List.sublist_mergeSort ranks_before_trans ranks_before_total hsorted List.filter_sublist
  have hsub' := hsub.filter fun c => c.score == v
  simp only [List.filter_filter, Bool.and_self] at hsub'
  have hlen := ((rank_perm cs).filter fun c => c.score == v).length_eq
  exact (hsub'.eq_of_length hlen.symm).symm

theorem firstBest_eq_none_iff (cs : List Candidate) : firstBest cs = none ↔ cs = [] := by
  rw [← head?_rank, List.head?_eq_none_iff, rank_eq_nil_iff]

theorem firstBest_spec {cs : List Candidate} {b : Candidate} (h : firstBest cs = some b) :
    b ∈ cs ∧ ∀ d ∈ cs, d.score ≤ b.score := by
  have hbest := List.find?_some h
  simp only [List.all_eq_true, decide_eq_true_eq] at hbest
  exact ⟨List.mem_of_find?_eq_some h, hbest⟩

theorem choose_eq_filter_firstBest (cs : List Candidate) (t : Terms) (minConfidence : Int) :
    choose cs t minConfidence = (firstBest cs).filter fun b => !tooLow minConfidence b.score t := by
  rw [choose, chooseRanked_fst, head?_rank]

theorem choose_eq_none_iff (cs : List Candidate) (t : Terms) (minConfidence : Int) :
    choose cs t minConfidence = none ↔
      cs = [] ∨ ((∀ c ∈ cs, c.score < minConfidence) ∧ 1 < t.all.length) := by
  rw [choose_eq_filter_firstBest]
  cases hb : firstBest cs with
  | none =>
    have hnil := (firstBest_eq_none_iff cs).1 hb
    simp [hnil]
  | some b =>
    obtain ⟨hmem, hmax⟩ := firstBest_spec hb
    have hne : cs ≠ [] := List.ne_nil_of_mem hmem
    -- the best score is below the threshold exactly when every score is
    have hall : b.score < minConfidence ↔ ∀ c ∈ cs, c.score < minConfidence :=
      ⟨fun hlt c hc => lt_of_le_of_lt (hmax c hc) hlt, fun h => h b hmem⟩
    simp [Option.filter, tooLow_eq_true_iff, hne, hall]

/-- Ranking is a stable sort by score, highest first. Choosing from the ranking finds nothing
when there are no candidates or all score below the threshold for a query of several terms, and
otherwise the first candidate, in the order given, of the highest score; the fallback for a single
term leaves the choice what the first ranked candidate gives. -/
theorem rank_stable_choose_first_best (cs : List Candidate) (t : Terms) (minConfidence : Int) :
    (rank cs).Perm cs ∧ (rank cs).Pairwise (fun a b => b.score ≤ a.score) ∧
      (∀ v : Int, (rank cs).filter (fun c => c.score == v) = cs.filter (fun c => c.score == v)) ∧
      (choose cs t minConfidence = none ↔
        cs = [] ∨ ((∀ c ∈ cs, c.score < minConfidence) ∧ 1 < t.all.length)) ∧
      (∀ b, choose cs t minConfidence = some b ↔
        firstBest cs = some b ∧ ¬(b.score < minConfidence ∧ 1 < t.all.length)) ∧
      (chooseRanked (rank cs) t minConfidence).1 =
        (rank cs).head?.filter fun c => !tooLow minConfidence c.score t := by
  refine ⟨rank_perm cs, rank_pairwise cs, filter_rank_score cs, choose_eq_none_iff cs t minConfidence,
    fun b => ?_, chooseRanked_fst _ t minConfidence⟩
  rw [choose_eq_filter_firstBest, Option.filter_eq_some_iff, Bool.not_eq_true', ← Bool.not_eq_true,
    tooLow_eq_true_iff]

end RevenueOffice
