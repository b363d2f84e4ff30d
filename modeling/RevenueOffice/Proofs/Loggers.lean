import Mathlib
import RevenueOffice.Log.Loggers

/-!
# What changing a logger changes

The logger of a name is read back as it was put, and every other name reads as before; giving a
name a logger, and hanging loggers in the tree, changes what no logger does with an entry. As long
as no name has two loggers, setting a logger again to what it was set to changes nothing, and in
particular two different loggers set once more as before stay as they were. An entry logged at a
logger that passes nothing up meets only that logger's handlers.
-/

set_option autoImplicit false

namespace RevenueOffice.Log

/-- What a logger does with an entry, apart from where it hangs in the tree: its threshold, its
handlers, and whether it passes entries upwards. -/
def Logger.settings (l : Logger) : Int × List Handler × Bool :=
  (l.threshold, l.handlers, l.propagate)

def Distinct (m n : String) : Prop := m ≠ n ∧ (isRootName m = false ∨ isRootName n = false)

theorem Distinct.symm {m n : String} (h : Distinct m n) : Distinct n m := ⟨h.1.symm, h.2.symm⟩

namespace Loggers

theorem lookup_map_replace (xs : List (String × Logger)) (m n : String) (l : Logger)
    (g : String × Logger → String × Logger) (hg : ∀ p, g p = (p.1, if p.1 = m then l else p.2)) :
    (xs.map g).lookup n = if n = m then (xs.lookup n).map fun _ => l else xs.lookup n := by
  induction xs with
  | nil => simp
  | cons p xs ih =>
    obtain ⟨k, v⟩ := p
    rw [List.map_cons, hg]
    by_cases hnk : n = k
    · subst hnk
      by_cases hnm : n = m <;> simp [hnm]
    · have hne : (n == k) = false := by simpa using hnk
      simp only [List.lookup_cons, hne, ih]

theorem lookup_put (ls : Loggers) (m n : String) (l : Logger) (hm : isRootName m = false) :
    (ls.put m l).named.lookup n = if n = m then (ls.named.lookup n).map fun _ => l
      else ls.named.lookup n := by
  simp only [put, hm, Bool.false_eq_true, ↓reduceIte]
  exact lookup_map_replace ls.named m n l _ fun p => by
    obtain ⟨k, v⟩ := p
    by_cases h : k = m <;> simp [h]

theorem get_put (ls : Loggers) (m n : String) (l : Logger) :
    (ls.put m l).get n =
      if isRootName n then (if isRootName m then l else ls.root)
      else if n = m ∧ ls.exists? m = true then l else ls.get n := by
  by_cases hn : isRootName n
  · by_cases hm : isRootName m <;> simp [put, get, hn, hm]
  · by_cases hm : isRootName m
    · have hnm : n ≠ m := by rintro rfl; exact hn hm
      simp [put, get, hn, hm, hnm]
    · have hm' : isRootName m = false := by simpa using hm
      simp only [get, hn, Bool.false_eq_true, ↓reduceIte, lookup_put ls m n l hm', exists?]
      by_cases hnm : n = m
      · subst hnm
        cases ls.named.lookup n <;> simp
      · simp [hnm]

theorem exists?_put (ls : Loggers) (m n : String) (l : Logger) :
    (ls.put m l).exists? n = ls.exists? n := by
  by_cases hm : isRootName m
  · simp [put, exists?, hm]
  · have hm' : isRootName m = false := by simpa using hm
    simp only [exists?, lookup_put ls m n l hm']
    split <;> simp

theorem settings_get_put (ls : Loggers) {m : String} {l : Logger}
    (hl : l.settings = (ls.get m).settings) (n : String) :
    ((ls.put m l).get n).settings = (ls.get n).settings := by
  rw [get_put]
  by_cases hn : isRootName n
  · by_cases hm : isRootName m
    · simpa [hn, hm, get] using hl
    · simp [hn, hm, get]
  · by_cases h : n = m ∧ ls.exists? m = true
    · obtain ⟨rfl, hex⟩ := h
      simpa [hn, hex] using hl
    · simp [hn, h]

theorem get_of_named_root {a b : Loggers} (hnamed : a.named = b.named) (hroot : a.root = b.root)
    (n : String) : a.get n = b.get n := by
  simp [get, hnamed, hroot]

theorem await_named (ls : Loggers) (above name : String) :
    (ls.await above name).named = ls.named ∧ (ls.await above name).root = ls.root := by
  unfold await
  split
  · split <;> exact ⟨rfl, rfl⟩
  · exact ⟨rfl, rfl⟩

theorem attach_go_named (name : String) (ls : Loggers) (aboves : List String) :
    (attach.go name ls aboves).1.named = ls.named ∧ (attach.go name ls aboves).1.root = ls.root := by
  induction aboves generalizing ls with
  | nil => exact ⟨rfl, rfl⟩
  | cons above rest ih =>
    simp only [attach.go]
    split
    · exact ⟨rfl, rfl⟩
    · obtain ⟨h1, h2⟩ := ih (ls.await above name)
      obtain ⟨h3, h4⟩ := await_named ls above name
      exact ⟨h1.trans h3, h2.trans h4⟩

theorem settings_get_attach (ls : Loggers) (name n : String) :
    ((ls.attach name).get n).settings = (ls.get n).settings := by
  obtain ⟨hnamed, hroot⟩ := attach_go_named name ls (namesAbove name)
  have hget := get_of_named_root hnamed hroot
  unfold attach
  rw [settings_get_put _ (by simp [Logger.settings, hget]), hget]

theorem exists?_attach (ls : Loggers) (name n : String) :
    (ls.attach name).exists? n = ls.exists? n := by
  obtain ⟨hnamed, -⟩ := attach_go_named name ls (namesAbove name)
  unfold attach
  rw [exists?_put]
  simp [exists?, hnamed]

theorem adopt_induction {q : Loggers → Prop} {ls : Loggers} (name : String) (below : List String)
    (h : q ls)
    (hput : ∀ ls' child, q ls' → q (ls'.put child { ls'.get child with parent := some name })) :
    q (ls.adopt name below) := by
  induction below generalizing ls with
  | nil => exact h
  | cons child rest ih =>
    simp only [adopt, List.foldl_cons] at ih ⊢
    apply ih
    split
    · exact h
    · exact hput _ _ h

theorem settings_get_adopt (ls : Loggers) (name : String) (below : List String) (n : String) :
    ((ls.adopt name below).get n).settings = (ls.get n).settings :=
  adopt_induction (q := fun ls' => (ls'.get n).settings = (ls.get n).settings) name below rfl
    fun _ _ h => (settings_get_put _ (by simp [Logger.settings]) n).trans h

theorem exists?_adopt (ls : Loggers) (name : String) (below : List String) (n : String) :
    (ls.adopt name below).exists? n = ls.exists? n :=
  adopt_induction (q := fun ls' => ls'.exists? n = ls.exists? n) name below rfl
    fun _ _ h => (exists?_put _ _ _ _).trans h

theorem get_add_fresh (ls : Loggers) {m : String} (hm : isRootName m = false)
    (hfresh : ls.exists? m = false) (waiting : List (String × List String)) (n : String) :
    ({ ls with named := ls.named ++ [(m, ({} : Logger))], waiting } : Loggers).get n = ls.get n := by
  by_cases hn : isRootName n
  · simp [get, hn]
  · simp only [get, hn, Bool.false_eq_true, ↓reduceIte, List.lookup_append]
    cases hl : ls.named.lookup n with
    | some v => rfl
    | none =>
      simp only [Option.none_or, Option.getD_none]
      by_cases hnm : n = m
      · subst hnm
        simp
      · have hne : (n == m) = false := by simpa using hnm
        simp [List.lookup_cons, hne]

theorem settings_get_obtain (ls : Loggers) (m n : String) :
    ((ls.obtain m).get n).settings = (ls.get n).settings := by
  unfold obtain
  split
  · rfl
  · next h =>
    simp only [Bool.or_eq_true, not_or, Bool.not_eq_true] at h
    rw [settings_get_attach, settings_get_adopt, get_add_fresh ls h.1 h.2]

theorem exists_obtain (ls : Loggers) (m : String) :
    isRootName m = true ∨ (ls.obtain m).exists? m = true := by
  unfold obtain
  split
  · next h => simpa using h
  · right
    rw [exists?_attach, exists?_adopt]
    simp [exists?, List.lookup_append]

theorem obtain_of_exists {ls : Loggers} {m : String}
    (h : isRootName m = true ∨ ls.exists? m = true) :
    ls.obtain m = ls := by
  unfold obtain
  rw [if_pos (by simpa using h)]

theorem get_modify_self (ls : Loggers) (m : String) (f : Logger → Logger) :
    (ls.modify m f).get m = { f ((ls.obtain m).get m) with parent := ((ls.obtain m).get m).parent } := by
  unfold modify
  rw [get_put]
  rcases exists_obtain ls m with h | h
  · simp [h]
  · by_cases hm : isRootName m
    · simp [hm]
    · simp [hm, h]

theorem settings_get_modify_of_distinct (ls : Loggers) {m n : String} (f : Logger → Logger)
    (h : Distinct m n) : ((ls.modify m f).get n).settings = (ls.get n).settings := by
  unfold modify
  rw [get_put, ← settings_get_obtain ls m n]
  obtain ⟨hne, hroot⟩ := h
  by_cases hn : isRootName n
  · have hm : isRootName m = false := by simpa [hn] using hroot
    simp [hn, hm, get]
  · simp [hn, Ne.symm hne]

/-! ## One logger a name -/

/-- No name has two loggers. -/
def WellKeyed (ls : Loggers) : Prop := (ls.named.map Prod.fst).Nodup

instance : DecidablePred WellKeyed := fun ls =>
  inferInstanceAs (Decidable (ls.named.map Prod.fst).Nodup)

theorem keys_put (ls : Loggers) (m : String) (l : Logger) :
    (ls.put m l).named.map Prod.fst = ls.named.map Prod.fst := by
  unfold put
  split
  · rfl
  · simp only [List.map_map]
    congr 1
    funext p
    obtain ⟨k, v⟩ := p
    by_cases h : k = m <;> simp [h]

theorem wellKeyed_put {ls : Loggers} (hw : ls.WellKeyed) (m : String) (l : Logger) :
    (ls.put m l).WellKeyed := by
  unfold WellKeyed
  rw [keys_put]
  exact hw

theorem wellKeyed_adopt {ls : Loggers} (hw : ls.WellKeyed) (name : String) (below : List String) :
    (ls.adopt name below).WellKeyed :=
  adopt_induction name below hw fun _ _ h => wellKeyed_put h _ _

theorem wellKeyed_attach {ls : Loggers} (hw : ls.WellKeyed) (name : String) :
    (ls.attach name).WellKeyed := by
  obtain ⟨hnamed, -⟩ := attach_go_named name ls (namesAbove name)
  unfold attach
  apply wellKeyed_put
  unfold WellKeyed
  rw [hnamed]
  exact hw

theorem wellKeyed_obtain {ls : Loggers} (hw : ls.WellKeyed) (m : String) :
    (ls.obtain m).WellKeyed := by
  unfold obtain
  split
  · exact hw
  · next h =>
    simp only [Bool.or_eq_true, not_or, Bool.not_eq_true] at h
    apply wellKeyed_attach
    apply wellKeyed_adopt
    -- the new name has no logger yet, so it is not among the names
    have hfresh : m ∉ ls.named.map Prod.fst := by
      intro hm
      obtain ⟨p, hp, hpm⟩ := List.mem_map.1 hm
      have hex : ls.exists? m = true := List.lookup_isSome_iff.2 ⟨p, hp, by simp [hpm]⟩
      simp [hex] at h
    unfold WellKeyed
    rw [List.map_append, List.nodup_append_comm]
    exact List.nodup_cons.2 ⟨hfresh, hw⟩

theorem wellKeyed_modify {ls : Loggers} (hw : ls.WellKeyed) (m : String) (f : Logger → Logger) :
    (ls.modify m f).WellKeyed :=
  wellKeyed_put (wellKeyed_obtain hw m) _ _

theorem map_replace_self (xs : List (String × Logger)) (m : String) (v : Logger)
    (hnd : (xs.map Prod.fst).Nodup) (hv : xs.lookup m = some v)
    (g : String × Logger → String × Logger) (hg : ∀ p, g p = (p.1, if p.1 = m then v else p.2)) :
    xs.map g = xs := by
  induction xs with
  | nil => rfl
  | cons p xs ih =>
    obtain ⟨k, old⟩ := p
    simp only [List.map_cons, List.nodup_cons] at hnd ⊢
    by_cases hkm : k = m
    · subst hkm
      have hold : old = v := by simpa [List.lookup_cons] using hv
      subst hold
      -- no later entry has the name again, so the rest is left as it is
      have hrest : xs.map g = xs := by
        rw [← List.map_id xs, List.map_map]
        apply List.map_congr_left
        intro p hp
        have hpk : p.1 ≠ k := fun h => hnd.1 (h ▸ List.mem_map_of_mem hp)
        simp [hg, hpk]
      simp [hg, hrest]
    · have hne : (m == k) = false := beq_eq_false_iff_ne.2 (Ne.symm hkm)
      have hv' : xs.lookup m = some v := by simpa [List.lookup_cons, hne] using hv
      simp [hg, hkm, ih hnd.2 hv']

theorem put_get_self {ls : Loggers} (hw : ls.WellKeyed) {m : String}
    (hm : isRootName m = true ∨ ls.exists? m = true) : ls.put m (ls.get m) = ls := by
  by_cases hr : isRootName m
  · simp [put, get, hr]
  · have hr' : isRootName m = false := by simpa using hr
    have hex : ls.exists? m = true := hm.resolve_left hr
    obtain ⟨v, hv⟩ := Option.isSome_iff_exists.1 hex
    simp only [put, hr', Bool.false_eq_true, ↓reduceIte, get, hv, Option.getD_some]
    rw [map_replace_self ls.named m v hw hv]
    intro p
    obtain ⟨k, w⟩ := p
    by_cases h : k = m <;> simp [h]

theorem exists?_obtain_of_exists (ls : Loggers) (m : String) {n : String}
    (h : ls.exists? n = true) :
    (ls.obtain m).exists? n = true := by
  unfold obtain
  split
  · exact h
  · rw [exists?_attach, exists?_adopt]
    obtain ⟨v, hv⟩ := Option.isSome_iff_exists.1 h
    simp [exists?, List.lookup_append, hv]

theorem exists_modify (ls : Loggers) (m : String) (f : Logger → Logger) :
    isRootName m = true ∨ (ls.modify m f).exists? m = true := by
  unfold modify
  rw [exists?_put]
  exact exists_obtain ls m

theorem exists_modify_of_exists (ls : Loggers) (m : String) (f : Logger → Logger) {n : String}
    (h : isRootName n = true ∨ ls.exists? n = true) :
    isRootName n = true ∨ (ls.modify m f).exists? n = true := by
  unfold modify
  rw [exists?_put]
  exact h.imp_right (exists?_obtain_of_exists ls m)

theorem settings_get_modify_self (ls : Loggers) (m : String) (f : Logger → Logger) :
    ((ls.modify m f).get m).settings = (f ((ls.obtain m).get m)).settings := by
  rw [get_modify_self]
  rfl

theorem chain_eq_cons (ls : Loggers) (m : String) : ∃ rest, ls.chain m = ls.get m :: rest := by
  by_cases hm : isRootName m = true
  · exact ⟨[], by simp [chain, chainFuel, get, hm]⟩
  · exact ⟨ls.chainFuel ls.named.length ((ls.get m).parent.getD rootName),
      by simp [chain, chainFuel, hm]⟩

end Loggers

/-- A change of a logger that sets all it does with an entry, whatever it did before. -/
def Overwrites (f : Logger → Logger) : Prop :=
  ∀ l, { f l with parent := l.parent } = { f {} with parent := l.parent }

theorem Overwrites.settings {f : Logger → Logger} (hf : Overwrites f) (l : Logger) :
    (f l).settings = (f {}).settings := by
  simpa [Logger.settings] using congrArg Logger.settings (hf l)

theorem Logger.eq_of_settings {a b : Logger} (hs : a.settings = b.settings)
    (hp : a.parent = b.parent) : a = b := by
  cases a
  cases b
  simp_all [Logger.settings]

namespace Loggers

theorem modify_of_settings {ls : Loggers} (hw : ls.WellKeyed) {m : String} {f : Logger → Logger}
    (hf : Overwrites f) (hm : isRootName m = true ∨ ls.exists? m = true)
    (hs : (ls.get m).settings = (f {}).settings) : ls.modify m f = ls := by
  unfold modify
  rw [obtain_of_exists hm]
  dsimp only
  have hself : { f (ls.get m) with parent := (ls.get m).parent } = ls.get m := by
    rw [hf]
    exact Logger.eq_of_settings hs.symm rfl
  rw [hself, put_get_self hw hm]

theorem modify_modify_again {ls : Loggers} (hw : ls.WellKeyed) {c p : String}
    {a b : Logger → Logger} (ha : Overwrites a) (hb : Overwrites b) (hd : Distinct c p) :
    ((((ls.modify c a).modify p b).obtain c).modify c a).modify p b =
      ((ls.modify c a).modify p b).obtain c := by
  have hc : isRootName c = true ∨ ((ls.modify c a).modify p b).exists? c = true :=
    exists_modify_of_exists _ p b (exists_modify ls c a)
  rw [obtain_of_exists hc]
  have hwy : ((ls.modify c a).modify p b).WellKeyed :=
    wellKeyed_modify (wellKeyed_modify hw c a) p b
  have hsc : (((ls.modify c a).modify p b).get c).settings = (a {}).settings := by
    rw [settings_get_modify_of_distinct _ b hd.symm, settings_get_modify_self,
      ha.settings]
  have hsp : (((ls.modify c a).modify p b).get p).settings = (b {}).settings := by
    rw [settings_get_modify_self, hb.settings]
  rw [modify_of_settings hwy ha hc hsc, modify_of_settings hwy hb (exists_modify _ p b) hsp]

end Loggers

/-! ## What an entry meets -/

def handlerWrites (hs : List Handler) (time source : String) (e : Entry) : List Write :=
  hs.filterMap fun h => if h.threshold ≤ e.level.number then h.write time source e else none

theorem handlerWrites_replicate (h : Handler) (k : Nat) (time source : String) (e : Entry) :
    handlerWrites (List.replicate k h) time source e =
      (List.replicate k (handlerWrites [h] time source e)).flatten := by
  unfold handlerWrites
  rw [List.filterMap_replicate]
  split <;> simp_all

/-- An entry logged at a logger that has a threshold and handlers but passes nothing up reaches
exactly those handlers. -/
theorem emit_of_closed {ls : Loggers} {m : String} (hp : (ls.get m).propagate = false)
    (ht : (ls.get m).threshold ≠ 0) (hne : (ls.get m).handlers ≠ []) (time : String) (e : Entry) :
    ls.emit time m e =
      if e.level.number ≤ 0 || e.level.number < (ls.get m).threshold then []
      else handlerWrites (ls.get m).handlers time (if isRootName m then rootName else m) e := by
  obtain ⟨rest, hc⟩ := ls.chain_eq_cons m
  obtain ⟨h, hs, hcons⟩ := List.exists_cons_of_ne_nil hne
  simp only [Loggers.emit, hc, effectiveThreshold, if_pos ht, handlersMet, hp, Bool.false_eq_true,
    ↓reduceIte, List.append_nil, hcons, handlerWrites]

end RevenueOffice.Log
