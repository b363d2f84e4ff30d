import Mathlib
import RevenueOffice.Log.Setup
import RevenueOffice.Proofs.Loggers

/-!
# Setting up logging again

A command may set up its logging more than once with the same arguments. A plain console setup
is then made once and for all: the root keeps the writer it was given, and nothing changes. A file
setup sets the command's and the package's loggers to what it always sets them to, so every later
setup that succeeds leaves them as the first one did. A progress-safe console setup is not of that
kind: it drops the command's console streams but not its progress-safe writers, and adds one, so
the command's logger gains a writer per setup and each of its entries is written once per setup;
only the package's logger, which drops its progress-safe writers first, stays as one setup left it.
-/

set_option autoImplicit false

namespace RevenueOffice.Log

/-- Set up logging for a command `k` times in succession, with the same arguments. -/
def configureTimes (n : Names) (files : Files) (command : String) (s : Setup) (stamp : String) :
    Nat → LogState → Except FileError LogState
  | 0, st => .ok st
  | k + 1, st =>
    match configure n files st command s stamp with
    | .ok (st', _) => configureTimes n files command s stamp k st'
    | .error e => .error e

section

variable (n : Names) (files : Files) (c stamp : String) (s : Setup)

theorem configureTimes_succ_of_ok {k : Nat} {st st' : LogState} {c' : String}
    (h : configure n files st c s stamp = .ok (st', c')) :
    configureTimes n files c s stamp (k + 1) st = configureTimes n files c s stamp k st' := by
  simp [configureTimes, h]

theorem configureTimes_one {st st' : LogState} {c' : String}
    (h : configure n files st c s stamp = .ok (st', c')) :
    configureTimes n files c s stamp 1 st = .ok st' := by
  rw [configureTimes_succ_of_ok n files c stamp s h]
  rfl

theorem configureTimes_succ_eq_ok {k : Nat} {st v : LogState}
    (h : configureTimes n files c s stamp (k + 1) st = .ok v) :
    ∃ st' c', configure n files st c s stamp = .ok (st', c') ∧
      configureTimes n files c s stamp k st' = .ok v := by
  cases hc : configure n files st c s stamp with
  | error e => simp [configureTimes, hc] at h
  | ok r =>
    obtain ⟨st', c'⟩ := r
    exact ⟨st', c', rfl, by rwa [configureTimes_succ_of_ok n files c stamp s hc] at h⟩

theorem configureTimes_preserves {p : LogState → Prop}
    (hstep : ∀ {u u' : LogState} {c' : String}, p u →
      configure n files u c s stamp = .ok (u', c') → p u') (k : Nat) {u v : LogState} (hu : p u)
    (h : configureTimes n files c s stamp k u = .ok v) : p v := by
  induction k generalizing u with
  | zero =>
    obtain rfl : u = v := by simpa [configureTimes] using h
    exact hu
  | succ k ih =>
    cases hcu : configure n files u c s stamp with
    | error e => simp [configureTimes, hcu] at h
    | ok r =>
      obtain ⟨u', c'⟩ := r
      rw [configureTimes_succ_of_ok n files c stamp s hcu] at h
      exact ih (hstep hu hcu) h

/-! ## A plain console setup -/

theorem configureRoot_handlers_ne_nil (ls : Loggers) (threshold : Int) (format : String)
    (sink : Sink) : (configureRoot ls threshold format sink).root.handlers ≠ [] := by
  unfold configureRoot
  split
  · simp [Loggers.set, Loggers.obtain, Loggers.put, isRootName]
  · next h => simpa using h

theorem configureRoot_of_ne_nil {ls : Loggers} (h : ls.root.handlers ≠ []) (threshold : Int)
    (format : String) (sink : Sink) : configureRoot ls threshold format sink = ls := by
  unfold configureRoot
  rw [if_neg (by simpa using h)]

theorem root_handlers_obtain (ls : Loggers) (m : String) :
    (ls.obtain m).root.handlers = ls.root.handlers := by
  have h := congrArg (·.2.1) (Loggers.settings_get_obtain ls m "root")
  simpa [Loggers.get, isRootName, Logger.settings] using h

theorem configure_plain_again (hs : s.toFile = false) (hp : s.progressSafe = false)
    (st : LogState) : ∃ st₁, configure n files st c s stamp = .ok (st₁, c) ∧
      configure n files st₁ c s stamp = .ok (st₁, c) := by
  refine ⟨{ st with loggers := (configureRoot st.loggers 20 messageFormat .stdout).obtain c },
    by simp [configure, hs, hp], ?_⟩
  have hroot :
      ((configureRoot st.loggers 20 messageFormat .stdout).obtain c).root.handlers ≠ [] := by
    rw [root_handlers_obtain]
    exact configureRoot_handlers_ne_nil _ _ _ _
  have hcmd := Loggers.exists_obtain (configureRoot st.loggers 20 messageFormat .stdout) c
  simp [configure, hs, hp, configureRoot_of_ne_nil hroot, Loggers.obtain_of_exists hcmd]

theorem configure_plain_times (hs : s.toFile = false) (hp : s.progressSafe = false)
    (st : LogState) (k : Nat) :
    configureTimes n files c s stamp (k + 1) st = configureTimes n files c s stamp 1 st := by
  obtain ⟨st₁, h₁, h₂⟩ := configure_plain_again n files c stamp s hs hp st
  rw [configureTimes_succ_of_ok n files c stamp s h₁,
    configureTimes_succ_of_ok n files c stamp s h₁]
  -- every later setup finds the state the first one left
  induction k with
  | zero => rfl
  | succ k ih => rw [configureTimes_succ_of_ok n files c stamp s h₂, ih]

/-! ## A file setup -/

theorem configure_file_loggers (hs : s.toFile = true) :
    ∃ a b : Logger → Logger, (∀ st st' c', configure n files st c s stamp = .ok (st', c') →
        st'.loggers = ((st.loggers.modify c a).modify n.package b).obtain c) ∧
      Overwrites a ∧ Overwrites b := by
  refine ⟨?a, ?b, ?loggers, ?ha, ?hb⟩
  case loggers =>
    intro st st' c' h
    simp only [configure, hs, Bool.not_true, Bool.false_eq_true, ↓reduceIte] at h
    cases hm : (files.withDirectories st.out.dirs).makeDirectories s.logDir with
    | error e => simp [hm, bind, Except.bind] at h
    | ok made =>
      simp only [hm, bind, Except.bind, pure, Except.pure, Except.ok.injEq, Prod.mk.injEq] at h
      obtain ⟨rfl, -⟩ := h
      rfl
  case ha => exact fun l => rfl
  case hb => exact fun l => rfl

theorem file_times_loggers (hs : s.toFile = true) (hd : Distinct c n.package) {st : LogState}
    (hw : st.loggers.WellKeyed) (k : Nat) {stₖ : LogState}
    (hₖ : configureTimes n files c s stamp (k + 1) st = .ok stₖ) :
    ∃ st₁, configureTimes n files c s stamp 1 st = .ok st₁ ∧ stₖ.loggers = st₁.loggers := by
  obtain ⟨a, b, hconf, ha, hb⟩ := configure_file_loggers n files c stamp s hs
  obtain ⟨st₁, c₁, h₁, hrest⟩ := configureTimes_succ_eq_ok n files c stamp s hₖ
  refine ⟨st₁, configureTimes_one n files c stamp s h₁, ?_⟩
  -- the loggers the first setup leaves are left alone by every later one
  have hfixed : ∀ {u u' : LogState} {c' : String}, u.loggers = st₁.loggers →
      configure n files u c s stamp = .ok (u', c') → u'.loggers = st₁.loggers := by
    intro u u' c' hu h
    rw [hconf u u' c' h, hu, hconf st st₁ c₁ h₁, Loggers.modify_modify_again hw ha hb hd]
    exact Loggers.obtain_of_exists (Loggers.exists_obtain _ c)
  exact configureTimes_preserves n files c stamp s hfixed k rfl hrest

/-! ## A progress-safe console setup -/

theorem configure_progress (hs : s.toFile = false) (hp : s.progressSafe = true)
    (hd : Distinct c n.package) (st : LogState) :
    ∃ st', configure n files st c s stamp = .ok (st', c) ∧
      (st'.loggers.get c).settings =
        (20, (st.loggers.get c).handlers.filter (·.kind != .stream) ++ [progressWriter 20], false) ∧
      (st'.loggers.get n.package).settings =
        ((st.loggers.get n.package).threshold,
          (st.loggers.get n.package).handlers.filter (·.kind != .progressSafe) ++ [progressWriter 30],
          (st.loggers.get n.package).propagate) := by
  simp only [configure, hs, hp, Bool.not_false, Bool.not_true, Bool.false_eq_true, ↓reduceIte]
  refine ⟨_, rfl, ?_, ?_⟩
  · rw [Loggers.settings_get_modify_of_distinct _ _ hd.symm,
      Loggers.settings_get_modify_self]
    have h := congrArg (·.2.1) (Loggers.settings_get_obtain st.loggers c c)
    simp only [Logger.settings] at h ⊢
    rw [h]
  · rw [Loggers.settings_get_modify_self]
    -- whatever the command's logger became, the package's logger is as it was
    have h : ∀ f, (((st.loggers.modify c f).obtain n.package).get n.package).settings =
        (st.loggers.get n.package).settings := fun f =>
      (Loggers.settings_get_obtain _ _ _).trans (Loggers.settings_get_modify_of_distinct _ f hd)
    simp only [Logger.settings, Prod.mk.injEq] at h ⊢
    simp [h]

/-- The command's and the package's loggers after `j + 1` progress-safe setups, from a command
logger `l` and a package logger `p`: the command's holds what it had but its console streams and
`j + 1` progress-safe writers, the package's what it had but its progress-safe writers and one at
warning. -/
def AfterProgress (l p : Logger) (j : Nat) (ls : Loggers) : Prop :=
  (ls.get c).settings =
      (20, l.handlers.filter (·.kind != .stream) ++ List.replicate (j + 1) (progressWriter 20),
        false) ∧
    (ls.get n.package).settings =
      (p.threshold, p.handlers.filter (·.kind != .progressSafe) ++ [progressWriter 30], p.propagate)

variable {n c s}

theorem afterProgress_first (hs : s.toFile = false) (hp : s.progressSafe = true)
    (hd : Distinct c n.package) (st : LogState) :
    ∃ st', configure n files st c s stamp = .ok (st', c) ∧
      AfterProgress n c (st.loggers.get c) (st.loggers.get n.package) 0 st'.loggers := by
  obtain ⟨st', h, hc, hpk⟩ := configure_progress n files c stamp s hs hp hd st
  exact ⟨st', h, by simpa using hc, hpk⟩

theorem afterProgress_step (hs : s.toFile = false) (hp : s.progressSafe = true)
    (hd : Distinct c n.package) {l p : Logger} {j : Nat} {u : LogState}
    (hu : AfterProgress n c l p j u.loggers) :
    ∃ u', configure n files u c s stamp = .ok (u', c) ∧ AfterProgress n c l p (j + 1) u'.loggers := by
  obtain ⟨u', h, hc, hpk⟩ := configure_progress n files c stamp s hs hp hd u
  obtain ⟨huc, hup⟩ := hu
  simp only [Logger.settings, Prod.mk.injEq] at huc hup hc hpk
  refine ⟨u', h, ?_, ?_⟩
  · -- the writers added so far are no console streams, so they stay
    simp [Logger.settings, hc, huc, List.filter_append, progressWriter,
      List.replicate_succ']
  · simp [Logger.settings, hpk, hup, List.filter_append, progressWriter]

theorem afterProgress_times (hs : s.toFile = false) (hp : s.progressSafe = true)
    (hd : Distinct c n.package) {l p : Logger} (k : Nat) {j : Nat} {u : LogState}
    (hu : AfterProgress n c l p j u.loggers) :
    ∃ v, configureTimes n files c s stamp k u = .ok v ∧ AfterProgress n c l p (j + k) v.loggers := by
  induction k generalizing j u with
  | zero => exact ⟨u, rfl, hu⟩
  | succ k ih =>
    obtain ⟨u', h, hu'⟩ := afterProgress_step files stamp hs hp hd hu
    obtain ⟨v, hv, hA⟩ := ih hu'
    refine ⟨v, by rw [configureTimes_succ_of_ok n files c stamp s h, hv], ?_⟩
    rwa [Nat.add_right_comm, Nat.add_assoc] at hA

variable (n c s)

theorem progress_times_writes (hs : s.toFile = false) (hp : s.progressSafe = true)
    (hd : Distinct c n.package) {st : LogState}
    (hstream : ∀ h ∈ (st.loggers.get c).handlers, h.kind = .stream) (k : Nat) :
    ∃ st₁ stₖ, configureTimes n files c s stamp 1 st = .ok st₁ ∧
      configureTimes n files c s stamp (k + 1) st = .ok stₖ ∧
      (stₖ.loggers.get n.package).settings = (st₁.loggers.get n.package).settings ∧
      (stₖ.loggers.get c).settings =
        (20, (st₁.loggers.get c).handlers ++ List.replicate k (progressWriter 20), false) ∧
      ∀ time e, stₖ.loggers.emit time c e =
        (List.replicate (k + 1) (st₁.loggers.emit time c e)).flatten := by
  obtain ⟨st₁, h₁, hc₁, hp₁⟩ := afterProgress_first files stamp hs hp hd st
  obtain ⟨stₖ, hₖ, hcₖ, hpₖ⟩ := afterProgress_times files stamp hs hp hd k ⟨hc₁, hp₁⟩
  refine ⟨st₁, stₖ, configureTimes_one n files c stamp s h₁,
    by rw [configureTimes_succ_of_ok n files c stamp s h₁, hₖ], hpₖ.trans hp₁.symm, ?_, ?_⟩
  · simp only [Logger.settings, Prod.mk.injEq] at hc₁ hcₖ ⊢
    refine ⟨hcₖ.1, ?_, hcₖ.2.2⟩
    rw [hcₖ.2.1, hc₁.2.1, List.append_assoc, List.replicate_append_replicate, Nat.add_right_comm]
  · -- only progress-safe writers are left on the command's logger, and it passes nothing up
    have hnone : (st.loggers.get c).handlers.filter (·.kind != .stream) = [] :=
      List.filter_eq_nil_iff.2 fun h hh => by simp [hstream h hh]
    simp only [Logger.settings, Prod.mk.injEq, hnone, List.nil_append, Nat.zero_add] at hc₁ hcₖ
    intro time e
    rw [emit_of_closed hcₖ.2.2 (by simp [hcₖ.1]) (by simp [hcₖ.2.1]),
      emit_of_closed hc₁.2.2 (by simp [hc₁.1]) (by simp [hc₁.2.1]), hcₖ.1, hcₖ.2.1, hc₁.1, hc₁.2.1]
    split
    · simp
    · rw [List.replicate_one, handlerWrites_replicate]

end

/-! ## Loggers at start -/

theorem wellKeyed_foldl_obtain {ls : Loggers} (hw : ls.WellKeyed) (names : List String) :
    (names.foldl Loggers.obtain ls).WellKeyed := by
  induction names generalizing ls with
  | nil => exact hw
  | cons m ms ih => exact ih (Loggers.wellKeyed_obtain hw m)

theorem settings_get_foldl_obtain (ls : Loggers) (names : List String) (m : String) :
    ((names.foldl Loggers.obtain ls).get m).settings = (ls.get m).settings := by
  induction names generalizing ls with
  | nil => rfl
  | cons k ks ih => rw [List.foldl_cons, ih, Loggers.settings_get_obtain]

theorem Names.wellKeyed_initial (n : Names) : n.initial.WellKeyed :=
  Loggers.wellKeyed_modify
    (wellKeyed_foldl_obtain (show ({} : Loggers).WellKeyed from List.nodup_nil) _) _ _

theorem Names.settings_get_initial (n : Names) {m : String} (hd : Distinct n.package m) :
    (n.initial.get m).settings = (({} : Loggers).get m).settings := by
  unfold Names.initial
  rw [Loggers.settings_get_modify_of_distinct _ _ hd, settings_get_foldl_obtain]

/-- Setting up a command's logging again, with the same arguments, changes nothing for a plain
console setup, and leaves the loggers as one setup leaves them for a file setup that succeeds;
a progress-safe console setup instead adds another progress-safe writer to the command's logger
each time, so that after `k + 1` setups every entry of the command is written `k + 1` times as
often as after one, while the package's logger is as one setup leaves it. -/
theorem configureTimes_repeat_stacks_progress_writers (n : Names) (files : Files)
    (c stamp : String) (s : Setup) (st : LogState) (hd : Distinct c n.package)
    (hw : st.loggers.WellKeyed) (hstream : ∀ h ∈ (st.loggers.get c).handlers, h.kind = .stream)
    (k : Nat) :
    configureTimes n files c { s with toFile := false, progressSafe := false } stamp (k + 1) st =
        configureTimes n files c { s with toFile := false, progressSafe := false } stamp 1 st ∧
      (∀ stₖ, configureTimes n files c { s with toFile := true } stamp (k + 1) st = .ok stₖ →
        ∃ st₁, configureTimes n files c { s with toFile := true } stamp 1 st = .ok st₁ ∧
          stₖ.loggers = st₁.loggers) ∧
      ∃ st₁ stₖ,
        configureTimes n files c { s with toFile := false, progressSafe := true } stamp 1 st =
          .ok st₁ ∧
        configureTimes n files c { s with toFile := false, progressSafe := true } stamp (k + 1) st =
          .ok stₖ ∧
        (stₖ.loggers.get n.package).settings = (st₁.loggers.get n.package).settings ∧
        (stₖ.loggers.get c).settings =
          (20, (st₁.loggers.get c).handlers ++ List.replicate k (progressWriter 20), false) ∧
        ∀ time e, stₖ.loggers.emit time c e =
          (List.replicate (k + 1) (st₁.loggers.emit time c e)).flatten :=
  ⟨configure_plain_times n files c stamp _ rfl rfl st k,
    fun _ h => file_times_loggers n files c stamp _ rfl hd hw k h,
    progress_times_writes n files c stamp _ rfl rfl hd hstream k⟩

theorem configureTimes_repeat_stacks_progress_writers_twice :
    (Distinct "oracle_script" "tax_office_resolver" ∧
      (Names.initial ⟨"tax_office_resolver", "dotenv.main"⟩).WellKeyed ∧
      ∀ h ∈ ((Names.initial ⟨"tax_office_resolver", "dotenv.main"⟩).get "oracle_script").handlers,
        h.kind = .stream) ∧
    (let n : Names := ⟨"tax_office_resolver", "dotenv.main"⟩
     let st : LogState := { loggers := n.initial, time := "t" }
     let files : Files := ⟨[], []⟩
     configureTimes n files "oracle_script" { toFile := false, progressSafe := false } "t" 2 st =
        configureTimes n files "oracle_script" { toFile := false, progressSafe := false } "t" 1 st ∧
      (∀ stₖ, configureTimes n files "oracle_script" { toFile := true } "t" 2 st = .ok stₖ →
        ∃ st₁, configureTimes n files "oracle_script" { toFile := true } "t" 1 st = .ok st₁ ∧
          stₖ.loggers = st₁.loggers) ∧
      ∃ st₁ stₖ,
        configureTimes n files "oracle_script" { toFile := false, progressSafe := true } "t" 1 st =
          .ok st₁ ∧
        configureTimes n files "oracle_script" { toFile := false, progressSafe := true } "t" 2 st =
          .ok stₖ ∧
        (stₖ.loggers.get n.package).settings = (st₁.loggers.get n.package).settings ∧
        (stₖ.loggers.get "oracle_script").settings =
          (20, (st₁.loggers.get "oracle_script").handlers ++ [progressWriter 20], false) ∧
        ∀ time e, stₖ.loggers.emit time "oracle_script" e =
          (List.replicate 2 (st₁.loggers.emit time "oracle_script" e)).flatten) := by
  have hd : Distinct "oracle_script" "tax_office_resolver" := ⟨by decide, Or.inl (by decide)⟩
  have hstream : ∀ h ∈ ((Names.initial ⟨"tax_office_resolver", "dotenv.main"⟩).get
      "oracle_script").handlers, h.kind = .stream := by
    have h := congrArg (·.2.1)
      (Names.settings_get_initial ⟨"tax_office_resolver", "dotenv.main"⟩ hd.symm)
    simp only [Logger.settings] at h
    intro x hx
    rw [h] at hx
    simp [Loggers.get, isRootName] at hx
  have hw := Names.wellKeyed_initial ⟨"tax_office_resolver", "dotenv.main"⟩
  exact ⟨⟨hd, hw, hstream⟩, configureTimes_repeat_stacks_progress_writers
    ⟨"tax_office_resolver", "dotenv.main"⟩ ⟨[], []⟩ "oracle_script" "t" {}
    { loggers := Names.initial ⟨"tax_office_resolver", "dotenv.main"⟩, time := "t" } hd hw hstream 1⟩

/-- Two progress-safe setups of a command, and an entry logged at it is written twice. -/
theorem progress_setup_twice_writes_twice :
    ((configureTimes ⟨"tax_office_resolver", "dotenv.main"⟩ ⟨[], []⟩ "oracle_script" {} "t" 2
        { loggers := Names.initial ⟨"tax_office_resolver", "dotenv.main"⟩, time := "t" }).map
      fun st => (st.log "oracle_script" (info "hello")).out.stderr) = .ok "hello\nhello\n" := by
  rfl

end RevenueOffice.Log
