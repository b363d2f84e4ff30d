import Mathlib
import RevenueOffice.Proofs.Lowercase
import RevenueOffice.Text.Normal

/-!
# The normal form of a text is normal

A break splits the words of a text into the words on either side of it, and a nonempty run
without a break is one word. From these two equations, words joined by single spaces split back
into the same words, and the normal form of a text is its own normal form: it has no comma or full
stop, no blank but the space, no space at either end and no two spaces together.
-/

set_option autoImplicit false

namespace RevenueOffice.Text

/-- A word of a text's normal form: not empty, lowercase in every context, and without blanks,
commas or full stops. -/
def IsNormalWord (w : List Char) : Prop := w ≠ [] ∧ ∀ c ∈ w, IsLowered c ∧ isWordBreak c = false

theorem isWordBreak_space : isWordBreak ' ' = true := by decide

theorem isLowered_space : IsLowered ' ' := ⟨by decide +kernel, by decide, by decide⟩

theorem wordsFrom_append_break {c : Char} (hc : isWordBreak c = true) (acc x y : List Char) :
    wordsFrom acc (x ++ c :: y) = wordsFrom acc x ++ wordsFrom [] y := by
  induction x generalizing acc with
  | nil => cases acc <;> simp [wordsFrom, hc]
  | cons d x ih =>
    by_cases hd : isWordBreak d = true
    · cases acc <;> simp [wordsFrom, hd, ih]
    · simp [wordsFrom, hd, ih]

theorem wordsFrom_of_no_break {w : List Char} (h : ∀ c ∈ w, isWordBreak c = false)
    (acc : List Char) (hne : acc ++ w ≠ []) : wordsFrom acc w = [acc.reverse ++ w] := by
  induction w generalizing acc with
  | nil =>
    have hacc : acc ≠ [] := by simpa using hne
    simp [wordsFrom, hacc]
  | cons d w ih =>
    have hd : isWordBreak d = false := h d List.mem_cons_self
    rw [wordsFrom, if_neg (by simp [hd]), ih (fun c hc => h c (List.mem_cons_of_mem d hc))
      (d :: acc) (by simp)]
    simp

theorem words_append_break {c : Char} (hc : isWordBreak c = true) (x y : List Char) :
    words (x ++ c :: y) = words x ++ words y :=
  wordsFrom_append_break hc [] x y

theorem words_of_no_break {w : List Char} (hne : w ≠ []) (h : ∀ c ∈ w, isWordBreak c = false) :
    words w = [w] := by
  simpa [words] using wordsFrom_of_no_break h [] (by simpa using hne)

theorem words_intercalate_space {ws : List (List Char)}
    (h : ∀ w ∈ ws, w ≠ [] ∧ ∀ c ∈ w, isWordBreak c = false) :
    words ([' '].intercalate ws) = ws := by
  induction ws with
  | nil => rfl
  | cons w ws ih =>
    have hw := h w List.mem_cons_self
    have hws : ∀ v ∈ ws, v ≠ [] ∧ ∀ c ∈ v, isWordBreak c = false :=
      fun v hv => h v (List.mem_cons_of_mem w hv)
    cases ws with
    | nil => simpa using words_of_no_break hw.1 hw.2
    | cons v vs =>
      -- the space after the first word splits it off from the rest
      rw [List.intercalate_cons_cons, List.append_assoc, List.singleton_append,
        words_append_break isWordBreak_space, words_of_no_break hw.1 hw.2, ih hws]
      rfl

theorem forall_mem_intercalate_space {p : Char → Prop} (hsp : p ' ') {ws : List (List Char)}
    (h : ∀ w ∈ ws, ∀ c ∈ w, p c) : ∀ c ∈ [' '].intercalate ws, p c := by
  induction ws with
  | nil => simp
  | cons w ws ih =>
    have hws : ∀ v ∈ ws, ∀ c ∈ v, p c := fun v hv => h v (List.mem_cons_of_mem w hv)
    cases ws with
    | nil => simpa using h w List.mem_cons_self
    | cons v vs =>
      intro c hc
      rw [List.intercalate_cons_cons, List.mem_append, List.mem_append, List.mem_singleton] at hc
      rcases hc with (hc | rfl) | hc
      · exact h w List.mem_cons_self c hc
      · exact hsp
      · exact ih hws c hc

theorem mem_wordsFrom {p : Char → Prop} {acc cs w : List Char}
    (hacc : ∀ c ∈ acc, p c ∧ isWordBreak c = false) (hcs : ∀ c ∈ cs, p c)
    (hw : w ∈ wordsFrom acc cs) : w ≠ [] ∧ ∀ c ∈ w, p c ∧ isWordBreak c = false := by
  induction cs generalizing acc with
  | nil =>
    by_cases he : acc = []
    · simp [wordsFrom, he] at hw
    · simp only [wordsFrom, List.isEmpty_iff, he, ↓reduceIte, List.mem_singleton] at hw
      subst hw
      exact ⟨by simpa using he, fun c hc => hacc c (List.mem_reverse.1 hc)⟩
  | cons d cs ih =>
    have hrest : ∀ c ∈ cs, p c := fun c hc => hcs c (List.mem_cons_of_mem d hc)
    by_cases hd : isWordBreak d = true
    · -- a break hands the word read so far out and starts afresh
      by_cases he : acc = []
      · simp only [wordsFrom, hd, he, List.isEmpty_nil, ↓reduceIte] at hw
        exact ih (by simp) hrest hw
      · simp only [wordsFrom, hd, List.isEmpty_iff, he, ↓reduceIte, List.mem_cons] at hw
        rcases hw with rfl | hw
        · exact ⟨by simpa using he, fun c hc => hacc c (List.mem_reverse.1 hc)⟩
        · exact ih (by simp) hrest hw
    · -- any other character joins the word being read
      have hd' : isWordBreak d = false := by simpa using hd
      simp only [wordsFrom, hd, Bool.false_eq_true, ↓reduceIte] at hw
      refine ih (fun c hc => ?_) hrest hw
      rcases List.mem_cons.1 hc with rfl | hc
      · exact ⟨hcs c List.mem_cons_self, hd'⟩
      · exact hacc c hc

theorem isNormalWord_of_mem_normalWords {cs w : List Char} (hw : w ∈ normalWords cs) :
    IsNormalWord w := by
  obtain ⟨hne, hchars⟩ :=
    mem_wordsFrom (p := IsLowered) (by simp) (isLowered_of_mem_lowerFrom false cs) hw
  exact ⟨hne, hchars⟩

theorem normalChars_intercalate {ws : List (List Char)} (h : ∀ w ∈ ws, IsNormalWord w) :
    normalChars ([' '].intercalate ws) = [' '].intercalate ws := by
  have hlow : ∀ c ∈ [' '].intercalate ws, IsLowered c :=
    forall_mem_intercalate_space isLowered_space fun w hw c hc => ((h w hw).2 c hc).1
  have hwords : words ([' '].intercalate ws) = ws :=
    words_intercalate_space fun w hw => ⟨(h w hw).1, fun c hc => ((h w hw).2 c hc).2⟩
  rw [normalChars, normalWords, lowerFrom_of_isLowered false hlow, hwords]

theorem normalChars_of_isNormalWord {w : List Char} (h : IsNormalWord w) : normalChars w = w := by
  have hone : ∀ v ∈ [w], IsNormalWord v := by simpa using h
  simpa using normalChars_intercalate hone

theorem normalChars_normalChars (cs : List Char) : normalChars (normalChars cs) = normalChars cs :=
  normalChars_intercalate fun _ hw => isNormalWord_of_mem_normalWords hw

/-- Bringing a text to normal form twice changes nothing. -/
theorem normalize_normalize (s : String) : normalize (normalize s) = normalize s := by
  simp [normalize, normalChars_normalChars]

section SpacedWords

theorem head?_intercalate_space {w : List Char} (hw : w ≠ []) (ws : List (List Char)) :
    ([' '].intercalate (w :: ws)).head? = w.head? := by
  obtain ⟨c, w, rfl⟩ := List.exists_cons_of_ne_nil hw
  cases ws <;> simp [List.intercalate_cons_cons]

theorem getLast?_intercalate_space {w : List Char} (hw : w ≠ []) (ws : List (List Char)) :
    ([' '].intercalate (ws ++ [w])).getLast? = w.getLast? := by
  induction ws with
  | nil => simp
  | cons v vs ih =>
    -- the last word stands in the text that the words after `v` make, which is not empty
    obtain ⟨u, us, hvs⟩ : ∃ u us, vs ++ [w] = u :: us := List.exists_cons_of_ne_nil (by simp)
    have hne : [' '].intercalate (vs ++ [w]) ≠ [] := by
      cases vs with
      | nil => simpa using hw
      | cons x xs =>
        obtain ⟨y, ys, hxs⟩ : ∃ y ys, xs ++ [w] = y :: ys := List.exists_cons_of_ne_nil (by simp)
        simp [hxs, List.intercalate_cons_cons]
    rw [List.cons_append, hvs, List.intercalate_cons_cons, ← hvs,
      List.getLast?_append_of_ne_nil _ hne, ih]

theorem isChain_intercalate_space {ws : List (List Char)} (h : ∀ w ∈ ws, w ≠ [] ∧ ' ' ∉ w) :
    ([' '].intercalate ws).IsChain (fun a b => a ≠ ' ' ∨ b ≠ ' ') := by
  induction ws with
  | nil => simp
  | cons w ws ih =>
    obtain ⟨-, hsp⟩ := h w List.mem_cons_self
    have hw : w.IsChain (fun a b => a ≠ ' ' ∨ b ≠ ' ') :=
      List.isChain_iff_forall_rel_of_append_cons_cons.2 fun a b l₁ l₂ heq =>
        .inl fun ha => hsp (by rw [heq, ← ha]; simp)
    have hws : ∀ v ∈ ws, v ≠ [] ∧ ' ' ∉ v := fun v hv => h v (List.mem_cons_of_mem w hv)
    cases ws with
    | nil => simpa using hw
    | cons v vs =>
      obtain ⟨hv, hvsp⟩ := hws v List.mem_cons_self
      rw [List.intercalate_cons_cons, List.append_assoc, List.singleton_append]
      refine hw.append (List.isChain_cons.2 ⟨?_, ih hws⟩) ?_
      · -- the space is followed by the first letter of the next word
        intro y hy
        rw [head?_intercalate_space hv] at hy
        exact .inr fun hy' => hvsp (hy' ▸ List.mem_of_head? hy)
      · -- and preceded by the last letter of the word before it
        intro x hx _ _
        exact .inl fun hx' => hsp (hx' ▸ List.mem_of_getLast? hx)

theorem not_two_spaces_of_isChain {t : List Char}
    (h : t.IsChain (fun a b => a ≠ ' ' ∨ b ≠ ' ')) : ¬ [' ', ' '] <:+: t := by
  rintro ⟨s, u, rfl⟩
  have hpair := List.isChain_iff_forall_rel_of_append_cons_cons.1 h
    (show s ++ [' ', ' '] ++ u = s ++ ' ' :: ' ' :: u by simp)
  simp at hpair

end SpacedWords

/-- A text in normal form: no comma, no full stop and no blank but the space, no space at either
end and no two spaces together. -/
structure IsNormalText (t : List Char) : Prop where
  no_comma : ',' ∉ t
  no_full_stop : '.' ∉ t
  blank_is_space : ∀ c ∈ t, isBlank c = true → c = ' '
  head_ne_space : t.head? ≠ some ' '
  getLast_ne_space : t.getLast? ≠ some ' '
  no_two_spaces : ¬ [' ', ' '] <:+: t

theorem IsNormalWord.space_not_mem {w : List Char} (h : IsNormalWord w) : ' ' ∉ w :=
  fun hsp => absurd (h.2 ' ' hsp).2 (by decide)

theorem isNormalText_intercalate {ws : List (List Char)} (h : ∀ w ∈ ws, IsNormalWord w) :
    IsNormalText ([' '].intercalate ws) := by
  -- the only break between the words is the space
  have hbreak : ∀ c ∈ [' '].intercalate ws, isWordBreak c = true → c = ' ' :=
    forall_mem_intercalate_space (fun _ => rfl) fun w hw c hc hb => by
      rw [((h w hw).2 c hc).2] at hb
      exact absurd hb (by decide)
  have hwords : ∀ w ∈ ws, w ≠ [] ∧ ' ' ∉ w := fun w hw => ⟨(h w hw).1, (h w hw).space_not_mem⟩
  refine ⟨fun hc => absurd (hbreak ',' hc (by decide)) (by decide),
    fun hc => absurd (hbreak '.' hc (by decide)) (by decide),
    fun c hc hb => hbreak c hc (by simp [isWordBreak, hb]), ?_, ?_,
    not_two_spaces_of_isChain (isChain_intercalate_space hwords)⟩
  · cases ws with
    | nil => simp
    | cons w ws =>
      rw [head?_intercalate_space (hwords w List.mem_cons_self).1]
      exact fun hsp => (hwords w List.mem_cons_self).2 (List.mem_of_head? hsp)
  · obtain rfl | ⟨vs, w, rfl⟩ := List.eq_nil_or_concat ws
    · simp
    · have hw := hwords w (by simp)
      rw [List.concat_eq_append, getLast?_intercalate_space hw.1]
      exact fun hsp => hw.2 (List.mem_of_getLast? hsp)

theorem isNormalText_normalChars (cs : List Char) : IsNormalText (normalChars cs) :=
  isNormalText_intercalate fun _ hw => isNormalWord_of_mem_normalWords hw

/-- The normal form of a text, a missing text counting as empty, is a text in normal form and is
its own normal form. -/
theorem normalize_isNormalText (s : Option String) :
    IsNormalText (normalize (s.getD "")).toList ∧
      normalize (normalize (s.getD "")) = normalize (s.getD "") :=
  ⟨by simpa [normalize] using isNormalText_normalChars (s.getD "").toList, normalize_normalize _⟩

end RevenueOffice.Text
