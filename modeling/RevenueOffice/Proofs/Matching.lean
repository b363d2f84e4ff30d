import Mathlib
import RevenueOffice.Rule

/-!
# What a match consumes

`Pattern.Steps` says, constructor by constructor, which cursors a pattern reaches, and `run_sound`
says that the matcher only hands such a cursor to its continuation. So a strip rule whose pattern
starts at the start of the text can only cut a beginning off, and one whose pattern ends at the
end can only cut an ending off, keeping at most a final line feed.
-/

set_option autoImplicit false

namespace RevenueOffice

namespace Pattern

/-- The cursors a pattern reaches from a cursor: over exactly its characters, over one character
of the set, over a run of the set no longer than the longest, through one pattern and then the
other, through either pattern, through the pattern with its span recorded, and nowhere for an
anchor that holds. -/
def Steps : Pattern → Cursor → Cursor → Prop
  | .text cs, c, c' => cs.isPrefixOf c.rest = true ∧ c' = c.advance cs.length
  | .one s, c, c' => ∃ d rest, c.rest = d :: rest ∧ s.contains d = true ∧ c' = c.advance 1
  | .many s, c, c' => ∃ n, n ≤ (c.rest.takeWhile s.contains).length ∧ c' = c.advance n
  | .seq p q, c, c' => ∃ m, p.Steps c m ∧ q.Steps m c'
  | .alt p q, c, c' => p.Steps c c' ∨ q.Steps c c'
  | .group p, c, c' => ∃ m, p.Steps c m ∧ c' = { m with group := some (c.pos, m.pos) }
  | .start, c, c' => c.pos = 0 ∧ c' = c
  | .finish, c, c' => (c.rest = [] ∨ c.rest = ['\n']) ∧ c' = c

/-- The matcher calls its continuation only at cursors the pattern reaches. -/
theorem run_sound (p : Pattern) (c : Cursor) (k : Cursor → Option Cursor) {r : Cursor}
    (h : p.run c k = some r) : ∃ c', p.Steps c c' ∧ k c' = some r := by
  induction p generalizing c k with
  | text cs =>
    simp only [run] at h
    split at h
    · next hpre => exact ⟨_, ⟨hpre, rfl⟩, h⟩
    · cases h
  | one s =>
    simp only [run] at h
    split at h
    · next d rest hrest =>
      split at h
      · next hd => exact ⟨_, ⟨d, rest, hrest, hd, rfl⟩, h⟩
      · cases h
    · cases h
  | many s =>
    -- a repetition tries its lengths from the longest down
    simp only [run] at h
    obtain ⟨n, hn, hk⟩ := List.exists_of_findSome?_eq_some h
    exact ⟨_, ⟨n, by simpa [Nat.lt_succ_iff] using hn, rfl⟩, hk⟩
  | seq p q ihp ihq =>
    obtain ⟨m, hm, hq⟩ := ihp c _ h
    obtain ⟨c', hc', hk⟩ := ihq m k hq
    exact ⟨c', ⟨m, hm, hc'⟩, hk⟩
  | alt p q ihp ihq =>
    simp only [run] at h
    split at h
    · next r' hr =>
      cases h
      obtain ⟨c', hc', hk⟩ := ihp c k hr
      exact ⟨c', .inl hc', hk⟩
    · obtain ⟨c', hc', hk⟩ := ihq c k h
      exact ⟨c', .inr hc', hk⟩
  | group p ih =>
    obtain ⟨m, hm, hk⟩ := ih c _ h
    exact ⟨_, ⟨m, hm, rfl⟩, hk⟩
  | start =>
    simp only [run] at h
    split at h
    · next h0 => exact ⟨c, ⟨h0, rfl⟩, h⟩
    · cases h
  | finish =>
    simp only [run] at h
    split at h
    · next hend => exact ⟨c, ⟨hend, rfl⟩, h⟩
    · cases h

theorem Steps.advance {p : Pattern} {c c' : Cursor} (h : p.Steps c c') :
    ∃ n ≤ c.rest.length, c'.pos = c.pos + n ∧ c'.rest = c.rest.drop n := by
  induction p generalizing c c' with
  | text cs =>
    obtain ⟨hpre, rfl⟩ := h
    exact ⟨cs.length, (List.isPrefixOf_iff_prefix.1 hpre).length_le, rfl, rfl⟩
  | one s =>
    obtain ⟨d, rest, hrest, -, rfl⟩ := h
    exact ⟨1, by simp [hrest], rfl, rfl⟩
  | many s =>
    obtain ⟨n, hn, rfl⟩ := h
    exact ⟨n, hn.trans (List.takeWhile_sublist _).length_le, rfl, rfl⟩
  | seq p q ihp ihq =>
    obtain ⟨m, hm, hq⟩ := h
    obtain ⟨n₁, hn₁, hpos₁, hrest₁⟩ := ihp hm
    obtain ⟨n₂, hn₂, hpos₂, hrest₂⟩ := ihq hq
    rw [hrest₁, List.length_drop] at hn₂
    exact ⟨n₁ + n₂, by omega, by omega, by rw [hrest₂, hrest₁, List.drop_drop]⟩
  | alt p q ihp ihq =>
    rcases h with h | h
    · exact ihp h
    · exact ihq h
  | group p ih =>
    -- recording the span moves nothing
    obtain ⟨m, hm, rfl⟩ := h
    obtain ⟨n, hn, hpos, hrest⟩ := ih hm
    exact ⟨n, hn, hpos, hrest⟩
  | start =>
    obtain ⟨-, rfl⟩ := h
    exact ⟨0, by simp, rfl, rfl⟩
  | finish =>
    obtain ⟨-, rfl⟩ := h
    exact ⟨0, by simp, rfl, rfl⟩

theorem searchFrom_sound {p : Pattern} {pos : Nat} {cs : List Char} {f : Found}
    (h : p.searchFrom pos cs = some f) :
    ∃ i ≤ cs.length, p.matchAt (pos + i) (cs.drop i) = some f := by
  induction cs generalizing pos with
  | nil => exact ⟨0, le_rfl, by simpa [searchFrom] using h⟩
  | cons d cs ih =>
    simp only [searchFrom] at h
    split at h
    · next f' hf =>
      cases h
      exact ⟨0, by simp, by simpa using hf⟩
    · obtain ⟨i, hi, hm⟩ := ih h
      refine ⟨i + 1, by simp [hi], ?_⟩
      simpa [Nat.add_assoc, Nat.add_comm 1 i] using hm

theorem matchAt_sound {p : Pattern} {pos : Nat} {rest : List Char} {f : Found}
    (h : p.matchAt pos rest = some f) :
    ∃ c', p.Steps ⟨pos, rest, none⟩ c' ∧ f = ⟨pos, c'.pos, c'.group⟩ := by
  obtain ⟨r, hr, rfl⟩ := Option.map_eq_some_iff.1 h
  obtain ⟨c', hc', hk⟩ := run_sound p _ Option.some hr
  refine ⟨c', hc', ?_⟩
  cases hk
  rfl

theorem replaceFirst_sound {p : Pattern} {replacement cs cs' : List Char}
    (h : p.replaceFirst replacement cs = some cs') :
    ∃ i c', p.Steps ⟨i, cs.drop i, none⟩ c' ∧ cs' = cs.take i ++ replacement ++ c'.rest := by
  obtain ⟨f, hf, rfl⟩ := Option.map_eq_some_iff.1 h
  obtain ⟨i, -, hm⟩ := searchFrom_sound hf
  obtain ⟨c', hc', rfl⟩ := matchAt_sound hm
  obtain ⟨n, -, hpos, hrest⟩ := hc'.advance
  refine ⟨i, c', by simpa using hc', ?_⟩
  simp only [Nat.zero_add] at hpos ⊢
  rw [hpos, hrest, List.drop_drop]

theorem replaceFirst_start {q : Pattern} {cs cs' : List Char}
    (h : (Pattern.seq .start q).replaceFirst [] cs = some cs') : ∃ n, cs' = cs.drop n := by
  obtain ⟨i, c', ⟨m, ⟨hi, rfl⟩, hq⟩, rfl⟩ := replaceFirst_sound h
  obtain ⟨n, -, -, hrest⟩ := hq.advance
  subst hi
  exact ⟨n, by simpa using hrest⟩

theorem replaceFirst_finish {a b : Pattern} {cs cs' : List Char}
    (h : (Pattern.seq a (.seq b .finish)).replaceFirst [] cs = some cs') :
    ∃ n e, cs' = cs.take n ++ e ∧ (e = [] ∨ e = ['\n']) := by
  obtain ⟨i, c', ⟨m, -, m', -, hend, rfl⟩, rfl⟩ := replaceFirst_sound h
  exact ⟨i, c'.rest, by simp, hend⟩

theorem steps_anyOf {ws : List String} {c c' : Cursor} (h : (anyOf ws).Steps c c') :
    ∃ w ∈ ws, w.toList <+: c.rest ∧ c' = c.advance w.toList.length := by
  induction ws with
  | nil =>
    obtain ⟨d, rest, -, hd, -⟩ := h
    simp [CharSet.contains] at hd
  | cons w ws ih =>
    cases ws with
    | nil =>
      obtain ⟨hpre, rfl⟩ := h
      exact ⟨w, List.mem_singleton_self w, List.isPrefixOf_iff_prefix.1 hpre, rfl⟩
    | cons v vs =>
      rcases h with ⟨hpre, rfl⟩ | h
      · exact ⟨w, List.mem_cons_self, List.isPrefixOf_iff_prefix.1 hpre, rfl⟩
      · obtain ⟨u, hu, hpre, rfl⟩ := ih h
        exact ⟨u, List.mem_cons_of_mem w hu, hpre, rfl⟩

theorem steps_blanks {c c' : Cursor} (h : blanks.Steps c c')
    (hhead : ∀ d ∈ c.rest.head?, Text.isBlank d = false) : c' = c := by
  obtain ⟨n, hn, rfl⟩ := h
  have hnil : c.rest.takeWhile ({ chars := [], blanks := true } : CharSet).contains = [] := by
    cases hr : c.rest with
    | nil => rfl
    | cons d ds =>
      have hd := hhead d (by simp [hr])
      simp [CharSet.contains, hd]
  rw [hnil, List.length_nil, Nat.le_zero] at hn
  subst hn
  simp [Cursor.advance]

/-! ## Where the search finds a match

Equations for one step of the matcher, so that a proof can unfold one application of `run` and
leave a repetition or an unknown pattern as it is. -/

theorem run_seq (p q : Pattern) (c : Cursor) (k : Cursor → Option Cursor) :
    (Pattern.seq p q).run c k = p.run c fun c' => q.run c' k := rfl

theorem run_group (p : Pattern) (c : Cursor) (k : Cursor → Option Cursor) :
    (Pattern.group p).run c k = p.run c fun c' => k { c' with group := some (c.pos, c'.pos) } := rfl

theorem run_start_zero (rest : List Char) (g : Option (Nat × Nat)) (k : Cursor → Option Cursor) :
    Pattern.start.run ⟨0, rest, g⟩ k = k ⟨0, rest, g⟩ := rfl

theorem run_one_cons {s : CharSet} {d : Char} (hd : s.contains d = true) (pos : Nat)
    (rest : List Char) (g : Option (Nat × Nat)) (k : Cursor → Option Cursor) :
    (Pattern.one s).run ⟨pos, d :: rest, g⟩ k = k ⟨pos + 1, rest, g⟩ := by
  simp [run, hd, Cursor.advance]


theorem findSome?_range_reverse {α : Type} {f : Nat → Option α} {n L : Nat} {r : α} (hn : n ≤ L)
    (hlonger : ∀ m, n < m → m ≤ L → f m = none) (hr : f n = some r) :
    (List.range (L + 1)).reverse.findSome? f = some r := by
  induction L with
  | zero =>
    obtain rfl : n = 0 := by omega
    simp [hr]
  | succ L ih =>
    rw [List.range_succ, List.reverse_append, List.reverse_singleton, List.singleton_append,
      List.findSome?_cons]
    by_cases hL : n = L + 1
    · subst hL
      rw [hr]
    · rw [hlonger (L + 1) (by omega) le_rfl]
      exact ih (by omega) fun m hm hmL => hlonger m hm (by omega)

/-- A repetition takes the longest run whose continuation succeeds. -/
theorem run_many_greedy {s : CharSet} {c : Cursor} {k : Cursor → Option Cursor} {n : Nat}
    {r : Cursor} (hn : n ≤ (c.rest.takeWhile s.contains).length)
    (hlonger : ∀ m, n < m → m ≤ (c.rest.takeWhile s.contains).length → k (c.advance m) = none)
    (hr : k (c.advance n) = some r) : (Pattern.many s).run c k = some r :=
  findSome?_range_reverse hn hlonger hr

theorem matchAt_eq_none {p : Pattern} {pos : Nat} {rest : List Char}
    (h : ∀ c', ¬ p.Steps ⟨pos, rest, none⟩ c') : p.matchAt pos rest = none := by
  cases hm : p.matchAt pos rest with
  | none => rfl
  | some f =>
    obtain ⟨c', hc', -⟩ := matchAt_sound hm
    exact absurd hc' (h c')

theorem search_eq_none {p : Pattern} {cs : List Char}
    (h : ∀ i c', ¬ p.Steps ⟨i, cs.drop i, none⟩ c') : p.search cs = none := by
  cases hs : p.search cs with
  | none => rfl
  | some f =>
    obtain ⟨i, -, hm⟩ := searchFrom_sound hs
    rw [Nat.zero_add, matchAt_eq_none (h i)] at hm
    cases hm

theorem searchFrom_append_of_none {p : Pattern} {u v : List Char} {pos : Nat}
    (h : ∀ i < u.length, p.matchAt (pos + i) ((u ++ v).drop i) = none) :
    p.searchFrom pos (u ++ v) = p.searchFrom (pos + u.length) v := by
  induction u generalizing pos with
  | nil => simp
  | cons d u ih =>
    have h0 : p.matchAt pos (d :: (u ++ v)) = none := by simpa using h 0 (by simp)
    rw [List.cons_append, searchFrom, h0]
    dsimp only
    rw [ih fun i hi => by simpa [Nat.add_assoc, Nat.add_comm 1 i] using h (i + 1) (by simp [hi])]
    simp [Nat.add_assoc, Nat.add_comm 1]

theorem matchAt_start_of_pos {q : Pattern} {pos : Nat} (hpos : pos ≠ 0) (rest : List Char) :
    (Pattern.seq .start q).matchAt pos rest = none := by
  simp [matchAt, run, hpos]

theorem search_start (q : Pattern) (cs : List Char) :
    (Pattern.seq .start q).search cs = (Pattern.seq .start q).matchAt 0 cs := by
  have hlater : ∀ pos, pos ≠ 0 → ∀ ds, (Pattern.seq .start q).searchFrom pos ds = none := by
    intro pos hpos ds
    induction ds generalizing pos with
    | nil => simp [searchFrom, matchAt_start_of_pos hpos]
    | cons d ds ih => simp [searchFrom, matchAt_start_of_pos hpos, ih (pos + 1) (by omega)]
  cases cs with
  | nil => rfl
  | cons d ds =>
    rw [search, searchFrom, hlater 1 (by omega)]
    cases (Pattern.seq .start q).matchAt 0 (d :: ds) <;> rfl

theorem search_start_anyOf_eq_none {ws : List String} {r : Pattern} {cs : List Char}
    (h : ∀ w ∈ ws, ¬ w.toList <+: cs) : (Pattern.seq .start (.seq (anyOf ws) r)).search cs = none := by
  rw [search_start]
  refine matchAt_eq_none fun c' hc' => ?_
  obtain ⟨m, ⟨-, rfl⟩, m', hm', -⟩ := hc'
  obtain ⟨w, hw, hpre, -⟩ := steps_anyOf hm'
  exact h w hw hpre

theorem search_blankWord_eq_none {w v : String} {cs : List Char}
    (hblank : ∀ c ∈ cs, Text.isBlank c = false) (hw : ¬ w.toList <:+: cs)
    (hv : ¬ v.toList <:+ cs) :
    (Pattern.alt (seqAll [blanks, lit w, blanks]) (seqAll [blanks, lit v, blanks, .finish])).search
      cs = none := by
  refine search_eq_none fun i c' h => ?_
  have hdrop : ∀ n, ∀ c ∈ ((cs.drop i).drop n).head?, Text.isBlank c = false :=
    fun n c hc => hblank c (List.mem_of_mem_drop (List.mem_of_mem_drop (List.mem_of_mem_head? hc)))
  rcases h with ⟨m, hm, m', ⟨hpre, -⟩, -⟩ | ⟨m, hm, m', ⟨hpre, rfl⟩, m'', hm'', hfin, -⟩
  · -- the first word would stand right at the start, the blanks before it being empty
    obtain rfl := steps_blanks hm (by simpa using hdrop 0)
    exact hw ((List.isPrefixOf_iff_prefix.1 hpre).isInfix.trans (List.drop_suffix i cs).isInfix)
  · obtain rfl := steps_blanks hm (by simpa using hdrop 0)
    obtain rfl := steps_blanks hm'' (hdrop _)
    have hend : (cs.drop i).drop v.toList.length = [] := by
      rcases hfin with hnil | hlf
      · exact hnil
      · have hlf' : '\n' ∈ (cs.drop i).drop v.toList.length := by simp [Cursor.advance] at hlf; simp [hlf]
        exact absurd (hblank _ (List.mem_of_mem_drop (List.mem_of_mem_drop hlf'))) (by decide)
    -- the rest after the second word is empty, so the text ends in it
    have hsuffix : v.toList <:+ cs.drop i := by
      have happ := List.prefix_iff_eq_append.1 (List.isPrefixOf_iff_prefix.1 hpre)
      rw [show (⟨i, cs.drop i, none⟩ : Cursor).rest = cs.drop i from rfl, hend,
        List.append_nil] at happ
      rw [happ]
    exact hv (hsuffix.trans (List.drop_suffix i cs))

theorem matchAt_finalWord_eq_none {ws : List String} {b : Char} (hb : ∀ w ∈ ws, b ∉ w.toList)
    (hlf : b ≠ '\n') {pos : Nat} {cs : List Char} (hhead : ∀ d ∈ cs.head?, Text.isBlank d = false)
    (hin : b ∈ cs) : (seqAll [blanks, anyOf ws, .finish]).matchAt pos cs = none := by
  refine matchAt_eq_none fun c' h => ?_
  obtain ⟨m, hm, m', hm', hfin, -⟩ := h
  obtain rfl := steps_blanks hm hhead
  obtain ⟨w, hw, ⟨e, he⟩, rfl⟩ := steps_anyOf hm'
  -- the text is the word and then at most a line feed, so the later character is in the word
  obtain rfl : cs = w.toList ++ e := he.symm
  have hend : e = [] ∨ e = ['\n'] := by simpa [Cursor.advance] using hfin
  rcases List.mem_append.1 hin with hbw | hbe
  · exact hb w hw hbw
  · rcases hend with rfl | rfl
    · simp at hbe
    · exact hlf (by simpa using hbe)

end Pattern

theorem Rule.apply_capture_of_search_eq_none {name : String} {p : Pattern}
    {f : List Char → List Char} {cs : List Char} (h : p.search cs = none) :
    (Rule.capture name p f).apply cs = none := by
  simp [Rule.apply, h]

theorem Rule.apply_strip_of_search_eq_none {name : String} {p : Pattern} {r cs : List Char}
    (h : p.search cs = none) : (Rule.strip name p r).apply cs = none := by
  simp [Rule.apply, Pattern.replaceFirst, h]

theorem Rule.apply_capture_start_run {name : String} {s : CharSet} {q : Pattern}
    {f : List Char → List Char} {d : Char} {y e : List Char} (hd : s.contains d = true)
    (hy : ∀ c ∈ y, s.contains c = true)
    (hlonger : ∀ j, 0 < j → j ≤ (e.takeWhile s.contains).length →
      ∀ pos g, q.run ⟨pos, e.drop j, g⟩ Option.some = none)
    (hstop : ∀ pos g, ∃ r : Cursor, q.run ⟨pos, e, g⟩ Option.some = some r ∧ r.group = g) :
    (Rule.capture name (.seq .start (.seq (.group (Pattern.oneOrMore s)) q)) f).apply (d :: y ++ e) =
      some (f (d :: y)) := by
  obtain ⟨r, hr, hgroup⟩ := hstop (1 + y.length) (some (0, 1 + y.length))
  have hwhile : (y ++ e).takeWhile s.contains = y ++ e.takeWhile s.contains :=
    List.takeWhile_append_of_pos hy
  -- after the first character the greedy repetition gives back all it took beyond `y`
  have hmany : (Pattern.many s).run ⟨1, y ++ e, none⟩
      (fun c' => q.run { c' with group := some (0, c'.pos) } Option.some) = some r := by
    refine Pattern.run_many_greedy (n := y.length) (by simp [hwhile]) (fun m hm hle => ?_) ?_
    · obtain ⟨j, rfl⟩ : ∃ j, m = y.length + j := ⟨m - y.length, by omega⟩
      have hj := hlonger j (by omega) (by simpa [hwhile] using hle)
        (1 + (y.length + j)) (some (0, 1 + (y.length + j)))
      simpa [Cursor.advance, List.drop_length_add_append] using hj
    · simpa [Cursor.advance] using hr
  have hrun : (Pattern.seq .start (.seq (.group (Pattern.oneOrMore s)) q)).run ⟨0, d :: y ++ e, none⟩
      Option.some = some r := by
    rw [Pattern.run_seq, Pattern.run_start_zero, Pattern.run_seq, Pattern.run_group,
      Pattern.oneOrMore, Pattern.run_seq, List.cons_append, Pattern.run_one_cons hd]
    exact hmany
  have hsearch : (Pattern.seq .start (.seq (.group (Pattern.oneOrMore s)) q)).search (d :: y ++ e) =
      some ⟨0, r.pos, some (0, 1 + y.length)⟩ := by
    rw [Pattern.search_start, Pattern.matchAt, hrun, Option.map_some, hgroup]
  rw [List.cons_append] at hsearch
  simp [Rule.apply, hsearch, Nat.add_comm 1]

/-- What a rule that strips an affix can do to a text: cut off a beginning, or cut off an ending
while keeping at most a final line feed. -/
def Rule.CutsEnds (r : Rule) : Prop :=
  ∀ cs cs', r.apply cs = some cs' →
    (∃ n, cs' = cs.drop n) ∨ ∃ n e, cs' = cs.take n ++ e ∧ (e = [] ∨ e = ['\n'])

theorem Rule.cutsEnds_start (name : String) (q : Pattern) :
    (Rule.strip name (.seq .start q) []).CutsEnds :=
  fun _ _ h => .inl (Pattern.replaceFirst_start h)

theorem Rule.cutsEnds_finish (name : String) (a b : Pattern) :
    (Rule.strip name (.seq a (.seq b .finish)) []).CutsEnds :=
  fun _ _ h => .inr (Pattern.replaceFirst_finish h)

theorem applyAll_cons (r : Rule) (rules : List Rule) (cs : List Char) :
    applyAll (r :: rules) cs = applyAll rules ((r.apply cs).getD cs) := by
  simp only [applyAll]
  conv_lhs => rw [applyAllTrace]
  cases r.apply cs <;> rfl

theorem applyAll_drop_of_apply {rules : List Rule} {k : Nat} (hk : k < rules.length)
    {cs cs' : List Char} (h : (rules[k].apply cs).getD cs = cs') :
    applyAll (rules.drop k) cs = applyAll (rules.drop (k + 1)) cs' := by
  rw [List.drop_eq_getElem_cons hk, applyAll_cons, h]

/-- A property of texts that every cut of a beginning or an ending keeps holds of what a list of
such rules leaves. -/
theorem applyAll_induction {P : List Char → Prop} {rules : List Rule}
    (hrules : ∀ r ∈ rules, r.CutsEnds)
    (hdrop : ∀ cs n, P cs → P (cs.drop n))
    (htake : ∀ cs n e, P cs → (e = [] ∨ e = ['\n']) → P (cs.take n ++ e))
    {cs : List Char} (hcs : P cs) : P (applyAll rules cs) := by
  induction rules generalizing cs with
  | nil => exact hcs
  | cons r rules ih =>
    rw [applyAll_cons]
    refine ih (fun r' hr' => hrules r' (List.mem_cons_of_mem r hr')) ?_
    cases happ : r.apply cs with
    | none => exact hcs
    | some cs' =>
      rcases hrules r List.mem_cons_self cs cs' happ with ⟨n, rfl⟩ | ⟨n, e, rfl, he⟩
      · exact hdrop cs n hcs
      · exact htake cs n e hcs he

end RevenueOffice
