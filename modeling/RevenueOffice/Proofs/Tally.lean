import Mathlib
import RevenueOffice.Scoring

/-!
# Counting while scoring

Scoring a register with counts keeps the same candidates as scoring it plainly, and fills one
tally as it goes. Each office is counted once as `scored`, once under the name of each of its
adjustments' criteria, and once as `kept` or `discarded`. The tally is a dictionary: a name keeps
the place where it was first counted and its count grows there, so the entry of a name reads back
how often that name was counted, and a name never counted has no entry. No criterion is named
like a counter, so the three counters count offices and nothing else.
-/

set_option autoImplicit false

namespace RevenueOffice

def addCount (e : Option Nat) (n : Nat) : Option Nat := if n = 0 then e else some (e.getD 0 + n)

theorem addCount_addCount (e : Option Nat) (m n : Nat) :
    addCount (addCount e m) n = addCount e (m + n) := by
  unfold addCount
  by_cases hm : m = 0
  · simp [hm]
  · by_cases hn : n = 0
    · simp [hm, hn]
    · simp [hm, hn]
      omega

theorem addCount_some_zero (n : Nat) : addCount (some 0) n = some n := by
  by_cases h : n = 0 <;> simp [addCount, h]

theorem lookup_cons_of_ne {k i : String} (n : Nat) (rest : List (String × Nat)) (h : k ≠ i) :
    ((i, n) :: rest).lookup k = rest.lookup k := by
  simp [List.lookup_cons, beq_eq_false_iff_ne.mpr h]

theorem lookup_bump (d : List (String × Nat)) (j k : String) :
    (bump d j).lookup k = addCount (d.lookup k) (if k = j then 1 else 0) := by
  induction d with
  | nil => by_cases h : k = j <;> simp [bump, addCount, h, lookup_cons_of_ne]
  | cons e rest ih =>
    obtain ⟨i, n⟩ := e
    by_cases hij : i = j
    · -- the name is counted in place
      subst hij
      by_cases hk : k = i
      · simp [bump, addCount, hk]
      · simp [bump, addCount, hk, lookup_cons_of_ne]
    · by_cases hk : k = i
      · subst hk
        simp [bump, addCount, hij]
      · simp [bump, hij, lookup_cons_of_ne _ _ hk, ih]

theorem lookup_foldl_bump (ks : List String) (d : List (String × Nat)) (k : String) :
    (ks.foldl bump d).lookup k = addCount (d.lookup k) (ks.count k) := by
  induction ks generalizing d with
  | nil => simp [addCount]
  | cons j ks ih =>
    rw [List.foldl_cons, ih, lookup_bump, addCount_addCount, List.count_cons]
    by_cases hk : k = j
    · subst hk; simp [Nat.add_comm]
    · simp [hk, Ne.symm hk]

theorem keys_bump (d : List (String × Nat)) (j : String) :
    (bump d j).map Prod.fst =
      if j ∈ d.map Prod.fst then d.map Prod.fst else d.map Prod.fst ++ [j] := by
  induction d with
  | nil => simp [bump]
  | cons e rest ih =>
    obtain ⟨i, n⟩ := e
    by_cases hij : i = j
    · simp [bump, hij]
    · by_cases hj : j ∈ rest.map Prod.fst <;> simp [bump, hij, ih, hj, Ne.symm hij]

theorem nodup_keys_foldl_bump (ks : List String) {d : List (String × Nat)}
    (hd : (d.map Prod.fst).Nodup) : ((ks.foldl bump d).map Prod.fst).Nodup := by
  induction ks generalizing d with
  | nil => exact hd
  | cons j ks ih =>
    refine ih ?_
    rw [keys_bump]
    split
    · exact hd
    · next hj => exact hd.append (List.nodup_singleton j) (by simpa using hj)

def counterNames : List String := ["scored", "kept", "discarded"]

theorem lookup_counters_start (k : String) :
    [("scored", 0), ("kept", 0), ("discarded", 0)].lookup k =
      if k ∈ counterNames then some 0 else none := by
  by_cases h₁ : k = "scored"
  · subst h₁; decide
  by_cases h₂ : k = "kept"
  · subst h₂; decide
  by_cases h₃ : k = "discarded"
  · subst h₃; decide
  simp [counterNames, lookup_cons_of_ne _ _ h₁, lookup_cons_of_ne _ _ h₂,
    lookup_cons_of_ne _ _ h₃, h₁, h₂, h₃]

theorem Criterion.name_not_mem_counterNames (c : Criterion) : c.name ∉ counterNames := by
  cases c <;> decide

namespace Scorer

variable (s : Scorer) (t : Terms) (floor : Int)

/-- The names that scoring one office counts, in order. -/
def countedNames (o : Office) : List String :=
  "scored" :: ((s.score o t).adjustments.map (·.criterion.name) ++
    [if floor < (s.score o t).score then "kept" else "discarded"])

/-- How often a criterion of the given name adjusted a score, over all the offices scored. -/
def firedCount (offices : List Office) (k : String) : Nat :=
  (((offices.map (s.score · t)).flatMap (·.adjustments)).map (·.criterion.name)).count k

theorem candidates_cons (o : Office) (offices : List Office) :
    s.candidates (o :: offices) t floor =
      (if floor < (s.score o t).score then [s.score o t] else []) ++
        s.candidates offices t floor := by
  by_cases h : floor < (s.score o t).score <;> simp [candidates, h]

theorem countOne_eq (acc : List Candidate × List (String × Nat)) (o : Office) :
    s.countOne t floor acc o =
      (acc.1 ++ (if floor < (s.score o t).score then [s.score o t] else []),
        (s.countedNames t floor o).foldl bump acc.2) := by
  unfold countOne countedNames
  by_cases h : floor < (s.score o t).score <;> simp [h, List.foldl_map]

theorem foldl_countOne (offices : List Office) (acc : List Candidate × List (String × Nat)) :
    offices.foldl (s.countOne t floor) acc =
      (acc.1 ++ s.candidates offices t floor,
        (offices.flatMap (s.countedNames t floor)).foldl bump acc.2) := by
  induction offices generalizing acc with
  | nil => simp [candidates]
  | cons o offices ih =>
    rw [List.foldl_cons, ih, countOne_eq, candidates_cons, List.flatMap_cons, List.foldl_append,
      List.append_assoc]

section Counts

variable (o : Office)

theorem counter_not_mem_adjustmentNames {k : String} (hk : k ∈ counterNames) :
    k ∉ (s.score o t).adjustments.map (·.criterion.name) := by
  simp only [List.mem_map, not_exists, not_and]
  intro a _ ha
  exact Criterion.name_not_mem_counterNames a.criterion (ha ▸ hk)

theorem count_countedNames_of_mem {k : String} (hk : k ∈ counterNames) :
    (s.countedNames t floor o).count k =
      ["scored", if floor < (s.score o t).score then "kept" else "discarded"].count k := by
  have hadj := counter_not_mem_adjustmentNames s t o hk
  simp [countedNames, List.count_cons, List.count_eq_zero_of_not_mem hadj]

theorem count_countedNames_of_not_mem {k : String} (hk : k ∉ counterNames) :
    (s.countedNames t floor o).count k =
      ((s.score o t).adjustments.map (·.criterion.name)).count k := by
  simp only [counterNames, List.mem_cons, List.not_mem_nil, or_false, not_or] at hk
  obtain ⟨h₁, h₂, h₃⟩ := hk
  by_cases h : floor < (s.score o t).score <;>
    simp [countedNames, h, Ne.symm h₁, Ne.symm h₂, Ne.symm h₃]

end Counts

section Run

variable (offices : List Office)

theorem count_scored_flatMap :
    (offices.flatMap (s.countedNames t floor)).count "scored" = offices.length := by
  induction offices with
  | nil => rfl
  | cons o offices ih =>
    rw [List.flatMap_cons, List.count_append, count_countedNames_of_mem s t floor o (by decide), ih,
      List.length_cons]
    split <;> simp [Nat.add_comm]

theorem count_kept_flatMap :
    (offices.flatMap (s.countedNames t floor)).count "kept" =
      (s.candidates offices t floor).length := by
  induction offices with
  | nil => rfl
  | cons o offices ih =>
    rw [List.flatMap_cons, List.count_append, count_countedNames_of_mem s t floor o (by decide), ih,
      candidates_cons, List.length_append]
    split <;> simp

theorem count_discarded_flatMap :
    (offices.flatMap (s.countedNames t floor)).count "discarded" +
      (s.candidates offices t floor).length = offices.length := by
  induction offices with
  | nil => rfl
  | cons o offices ih =>
    rw [List.flatMap_cons, List.count_append, count_countedNames_of_mem s t floor o (by decide),
      candidates_cons, List.length_append, List.length_cons]
    split <;> simp <;> omega

theorem count_flatMap_of_not_mem {k : String} (hk : k ∉ counterNames) :
    (offices.flatMap (s.countedNames t floor)).count k = s.firedCount t offices k := by
  induction offices with
  | nil => rfl
  | cons o offices ih =>
    rw [List.flatMap_cons, List.count_append, count_countedNames_of_not_mem s t floor o hk, ih]
    simp [firedCount]

end Run

/-- Scoring with counts keeps exactly the candidates of plain scoring, in register order. Its
tally is a dictionary: the counters say how many offices were scored, kept and discarded, and
every other name reads how often a criterion of that name adjusted a score, over kept and
discarded offices alike, with no entry for a criterion that never did. No criterion is named like
a counter. -/
theorem candidatesCounted_tally (offices : List Office) :
    (s.candidatesCounted offices t floor).1 = s.candidates offices t floor ∧
    ((s.candidatesCounted offices t floor).2.map Prod.fst).Nodup ∧
    (s.candidatesCounted offices t floor).2.lookup "scored" = some offices.length ∧
    (s.candidatesCounted offices t floor).2.lookup "kept" =
      some (s.candidates offices t floor).length ∧
    (s.candidatesCounted offices t floor).2.lookup "discarded" =
      some (offices.length - (s.candidates offices t floor).length) ∧
    (∀ k, k ∉ counterNames → (s.candidatesCounted offices t floor).2.lookup k =
      if s.firedCount t offices k = 0 then none else some (s.firedCount t offices k)) ∧
    ∀ c : Criterion, c.name ∉ counterNames := by
  have hrun := s.foldl_countOne t floor offices ([], [("scored", 0), ("kept", 0), ("discarded", 0)])
  rw [List.nil_append] at hrun
  rw [candidatesCounted, hrun]
  have hdiscarded := s.count_discarded_flatMap t floor offices
  refine ⟨rfl, nodup_keys_foldl_bump _ (by decide), ?_, ?_, ?_, ?_,
    Criterion.name_not_mem_counterNames⟩
  · rw [lookup_foldl_bump, count_scored_flatMap, lookup_counters_start, if_pos (by decide),
      addCount_some_zero]
  · rw [lookup_foldl_bump, count_kept_flatMap, lookup_counters_start, if_pos (by decide),
      addCount_some_zero]
  · rw [lookup_foldl_bump, lookup_counters_start, if_pos (by decide), addCount_some_zero]
    congr 1
    omega
  · intro k hk
    rw [lookup_foldl_bump, count_flatMap_of_not_mem s t floor offices hk, lookup_counters_start,
      if_neg hk]
    simp [addCount]

end Scorer

end RevenueOffice
