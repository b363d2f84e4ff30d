import Mathlib
import RevenueOffice.Office.Load

/-!
# Reading and loading the register file

A blank line put in at the end of a record, anywhere but the very start, leaves the rows read and
whether reading fails as they were, up to the line a wrongly sized record is reported at: it is a
record without fields, skipped as blank, or it completes the line break before it. At the very
start it is read as the header. Loading fails only for a path with a null character; otherwise it
gives a register that names the path, with one log entry.
-/

set_option autoImplicit false

namespace RevenueOffice.Csv

/-- The texts that follow the ends of records, in order, when reading starts with the parser `p`:
after each line at whose end the reader stands at the start of a new record. -/
def recordEnds (p : Parser) (text : List Char) : List (List Char) :=
  match text with
  | [] => []
  | c :: cs =>
    match p.line ((c :: cs).take (lineLength (c :: cs))) with
    | .error _ => []
    | .ok p' =>
      if p'.state = .startRecord then
        (c :: cs).drop (lineLength (c :: cs)) ::
          recordEnds {} ((c :: cs).drop (lineLength (c :: cs)))
      else recordEnds p' ((c :: cs).drop (lineLength (c :: cs)))
termination_by text.length
decreasing_by
  all_goals
    have := lineLength_pos c cs
    simp only [List.length_drop, List.length_cons]
    omega

def Record.later (r : Record) : Record := { r with lineNumber := r.lineNumber + 1 }

section FirstLine

theorem lineLength_le_length (t : List Char) : lineLength t ≤ t.length := by
  fun_induction lineLength t <;> simp_all

theorem length_take_lineLength (F : List Char) : (F.take (lineLength F)).length = lineLength F := by
  simp [lineLength_le_length]

theorem take_lineLength_ne_nil (c : Char) (cs : List Char) :
    (c :: cs).take (lineLength (c :: cs)) ≠ [] := by
  have := lineLength_pos c cs
  simp only [ne_eq, List.take_eq_nil_iff, reduceCtorEq, or_false]
  omega

theorem lineLength_cons {c : Char} (hlf : c ≠ '\n') (hcr : c ≠ '\r') (X : List Char) :
    lineLength (c :: X) = lineLength X + 1 := by
  simp [lineLength, hcr]

theorem lineLength_return {X : List Char} (h : X.head? ≠ some '\n') :
    lineLength ('\r' :: X) = 1 := by
  cases X with
  | nil => rfl
  | cons d X =>
    have hd : d ≠ '\n' := by simpa using h
    simp [lineLength, hd]

variable (F : List Char)

theorem lineLength_take_append_of_lineFeed (h : (F.take (lineLength F)).getLast? = some '\n')
    (Y : List Char) : lineLength (F.take (lineLength F) ++ Y) = lineLength F := by
  fun_induction lineLength F with
  | case1 => simp at h
  | case2 rest => simp [lineLength]
  | case3 rest => simp [lineLength]
  | case4 rest hrest => simp at h
  | case5 c rest hlf _ hcr ih =>
    rw [List.take_succ_cons] at h ⊢
    -- the line feed that ends the line is not `c`, so it ends the rest of the line
    have hlast : (rest.take (lineLength rest)).getLast? = some '\n' := by
      cases hr : rest.take (lineLength rest) with
      | nil => simp [hr] at h; exact absurd h hlf
      | cons d ds => simpa [hr, List.getLast?_cons] using h
    rw [List.cons_append, lineLength_cons hlf hcr, ih hlast]

theorem lineLength_take_append {Y : List Char} (h : Y.head? = (F.drop (lineLength F)).head?) :
    lineLength (F.take (lineLength F) ++ Y) = lineLength F := by
  fun_induction lineLength F with
  | case1 => simp_all [lineLength]
  | case2 rest => simp [lineLength]
  | case3 rest => simp [lineLength]
  | case4 rest hrest =>
    -- a lone carriage return stays lone, as what follows it is no line feed
    refine lineLength_return fun hY => ?_
    cases rest with
    | nil => simp_all
    | cons d rest => simp_all
  | case5 c rest hlf _ hcr ih =>
    rw [List.take_succ_cons, List.cons_append, lineLength_cons hlf hcr, ih (by simpa using h)]

theorem lineLength_take_append_lineFeed (h : (F.take (lineLength F)).getLast? ≠ some '\n') :
    lineLength (F.take (lineLength F) ++ '\n' :: F.drop (lineLength F)) = lineLength F + 1 := by
  fun_induction lineLength F with
  | case1 => simp [lineLength]
  | case2 rest => simp at h
  | case3 rest => simp at h
  | case4 rest hrest => simp [lineLength]
  | case5 c rest hlf _ hcr ih =>
    have hlast : (rest.take (lineLength rest)).getLast? ≠ some '\n' := by
      cases hr : rest.take (lineLength rest) with
      | nil => simp
      | cons d ds => simpa [hr, List.take_succ_cons, List.getLast?_cons] using h
    rw [List.take_succ_cons, List.drop_succ_cons, List.cons_append, lineLength_cons hlf hcr,
      ih hlast]

end FirstLine

namespace Parser

theorem line_lineFeed {q : Parser} (h : q.state ≠ .inQuoted) :
    q.line ['\n'] = .ok q.endOfLine := by
  obtain ⟨state, field, fieldLength, fields⟩ := q
  cases state <;> simp_all [line, char, endOfLine, isLineBreak]

theorem line_append_lineFeed {p p' : Parser} {L : List Char} (h : p.line L = .ok p')
    (hs : p'.state = .startRecord) : p.line (L ++ ['\n']) = .ok p' := by
  induction L generalizing p with
  | nil =>
    -- the line's end leaves no quoted field open, so the line feed does what the end did
    simp only [line, Except.ok.injEq] at h
    subst h
    have hq : p.state ≠ .inQuoted := fun hq => by simp [endOfLine, hq] at hs
    exact line_lineFeed hq
  | cons c cs ih =>
    simp only [line] at h
    split at h
    · next q hq => simp only [List.cons_append, line, hq]; exact ih h
    · exact absurd h (by simp)

end Parser

theorem readFrom_cons_of_line {p p' : Parser} {n : Nat} {c : Char} {cs : List Char}
    (h : p.line ((c :: cs).take (lineLength (c :: cs))) = .ok p') :
    readFrom p n none (c :: cs) =
      if p'.state = .startRecord then
        ⟨⟨p'.fields.reverse, n + 1⟩ ::
            (readFrom {} (n + 1) none ((c :: cs).drop (lineLength (c :: cs)))).records,
          (readFrom {} (n + 1) none ((c :: cs).drop (lineLength (c :: cs)))).ending⟩
      else readFrom p' (n + 1) none ((c :: cs).drop (lineLength (c :: cs))) := by
  rw [readFrom]
  · simp only [h]
  · -- no decoding failure cuts the text
    simp

theorem readFrom_line {p p' : Parser} {n : Nat} {L Y : List Char} (hL : L ≠ [])
    (hlen : lineLength (L ++ Y) = L.length) (h : p.line L = .ok p') :
    readFrom p n none (L ++ Y) =
      if p'.state = .startRecord then
        ⟨⟨p'.fields.reverse, n + 1⟩ :: (readFrom {} (n + 1) none Y).records,
          (readFrom {} (n + 1) none Y).ending⟩
      else readFrom p' (n + 1) none Y := by
  obtain ⟨c, cs, hcs⟩ := List.exists_cons_of_ne_nil (show L ++ Y ≠ [] by simp [hL])
  have htake : (c :: cs).take (lineLength (c :: cs)) = L := by
    rw [← hcs, hlen, List.take_left]
  have hdrop : (c :: cs).drop (lineLength (c :: cs)) = Y := by
    rw [← hcs, hlen, List.drop_left]
  rw [hcs, readFrom_cons_of_line (htake ▸ h), hdrop]

theorem readFrom_lineFeed (n : Nat) (Y : List Char) :
    readFrom {} n none ('\n' :: Y) =
      ⟨⟨[], n + 1⟩ :: (readFrom {} (n + 1) none Y).records,
        (readFrom {} (n + 1) none Y).ending⟩ := by
  have hline : ({} : Parser).line ['\n'] = .ok {} := rfl
  simpa using readFrom_line (n := n) (Y := Y) (by simp) (by simp [lineLength]) hline

theorem readFrom_succ (p : Parser) (n : Nat) (f : Option Utf8.Failure) (t : List Char) :
    readFrom p (n + 1) f t =
      ⟨(readFrom p n f t).records.map Record.later, (readFrom p n f t).ending⟩ := by
  fun_induction readFrom p n f t with
  | case1 p n e hf => subst hf; simp [readFrom]
  | case2 p n hf hopen => subst hf; simp only [readFrom, hopen, ↓reduceIte]; simp [Record.later]
  | case3 p n hf hopen =>
    subst hf; simp only [readFrom, hopen, Bool.false_eq_true, ↓reduceIte]; simp
  | case4 p n c cs e hend hf => subst hf; simp [readFrom, hend]
  | case5 p n c cs len e hline hf =>
    simp only [len] at hline
    rw [readFrom]
    · simp [hline]
    · exact hf
  | case6 p n c cs len p' hline hstart hf ih =>
    simp only [len] at hline ih ⊢
    rw [readFrom]
    · simp [hline, hstart, ih, Record.later]
    · exact hf
  | case7 p n c cs len p' hline hopen hf ih =>
    simp only [len] at hline ih ⊢
    rw [readFrom]
    · simp [hline, hopen, ih]
    · exact hf

/-- `rs'` is `rs`, or `rs` with a record without fields put in after one of its records, the
records after it counted one line further on. -/
inductive Padded : List Record → List Record → Prop
  | same (rs : List Record) : Padded rs rs
  | blank (m : Nat) (rs : List Record) : Padded rs (⟨[], m⟩ :: rs.map Record.later)
  | cons (r : Record) {rs rs' : List Record} : Padded rs rs' → Padded (r :: rs) (r :: rs')

def Records.PaddedAfterFirst (R R' : Records) : Prop :=
  ∃ r rs rs', R.records = r :: rs ∧ R'.records = r :: rs' ∧ Padded rs rs' ∧ R'.ending = R.ending

theorem Records.PaddedAfterFirst.cons {R R' : Records} (h : R.PaddedAfterFirst R') (r : Record) :
    Records.PaddedAfterFirst ⟨r :: R.records, R.ending⟩ ⟨r :: R'.records, R'.ending⟩ := by
  obtain ⟨q, rs, rs', hR, hR', hpad, hend⟩ := h
  exact ⟨r, q :: rs, q :: rs', by rw [hR], by rw [hR'], .cons q hpad, hend⟩

theorem exists_append_of_mem_recordEnds {p : Parser} {F B : List Char} (h : B ∈ recordEnds p F) :
    ∃ A, A ≠ [] ∧ A ++ B = F := by
  fun_induction recordEnds p F with
  | case1 => simp at h
  | case2 p c cs e hline => simp at h
  | case3 p c cs p' hline hstart ih =>
    rcases List.mem_cons.1 h with rfl | h
    · exact ⟨_, take_lineLength_ne_nil c cs, List.take_append_drop _ _⟩
    · obtain ⟨A, -, hA⟩ := ih h
      refine ⟨(c :: cs).take (lineLength (c :: cs)) ++ A,
        List.append_ne_nil_of_left_ne_nil (take_lineLength_ne_nil c cs) A, ?_⟩
      rw [List.append_assoc, hA, List.take_append_drop]
  | case4 p c cs p' hline hopen ih =>
    obtain ⟨A, -, hA⟩ := ih h
    refine ⟨(c :: cs).take (lineLength (c :: cs)) ++ A,
      List.append_ne_nil_of_left_ne_nil (take_lineLength_ne_nil c cs) A, ?_⟩
    rw [List.append_assoc, hA, List.take_append_drop]

theorem split_at_later_recordEnd {q : Parser} {c : Char} {cs A B : List Char}
    (hB : B ∈ recordEnds q ((c :: cs).drop (lineLength (c :: cs)))) (hA : A ++ B = c :: cs) :
    ∃ A', A' ++ B = (c :: cs).drop (lineLength (c :: cs)) ∧
      A = (c :: cs).take (lineLength (c :: cs)) ++ A' ∧
      lineLength ((c :: cs).take (lineLength (c :: cs)) ++ (A' ++ '\n' :: B)) =
        ((c :: cs).take (lineLength (c :: cs))).length := by
  obtain ⟨A', hA'ne, hA'⟩ := exists_append_of_mem_recordEnds hB
  have hsplit : A ++ B = ((c :: cs).take (lineLength (c :: cs)) ++ A') ++ B := by
    rw [hA, List.append_assoc, hA', List.take_append_drop]
  -- what follows the first line still starts with the run, so the line ends where it did
  have hhead : (A' ++ '\n' :: B).head? = ((c :: cs).drop (lineLength (c :: cs))).head? := by
    rw [← hA', List.head?_append_of_ne_nil _ hA'ne, List.head?_append_of_ne_nil _ hA'ne]
  exact ⟨A', hA', List.append_cancel_right hsplit,
    (lineLength_take_append (c :: cs) hhead).trans (length_take_lineLength _).symm⟩

theorem readFrom_lineFeed_at_recordEnd {p : Parser} {F B : List Char} (hB : B ∈ recordEnds p F)
    {A : List Char} (hA : A ++ B = F) (n : Nat) :
    (readFrom p n none F).PaddedAfterFirst (readFrom p n none (A ++ '\n' :: B)) := by
  fun_induction recordEnds p F generalizing A n with
  | case1 => simp at hB
  | case2 p c cs e hline => simp at hB
  | case3 p c cs p' hline hstart ih =>
    have hne := take_lineLength_ne_nil c cs
    rw [readFrom_cons_of_line hline, if_pos hstart]
    rcases List.mem_cons.1 hB with rfl | hB
    · -- the line feed goes right after this line
      obtain rfl : A = (c :: cs).take (lineLength (c :: cs)) :=
        List.append_cancel_right (hA.trans (List.take_append_drop _ _).symm)
      by_cases hlf : ((c :: cs).take (lineLength (c :: cs))).getLast? = some '\n'
      · -- after a line feed it is a line of its own, a record without fields
        have hlen := lineLength_take_append_of_lineFeed (c :: cs) hlf
          ('\n' :: (c :: cs).drop (lineLength (c :: cs)))
        rw [readFrom_line hne (hlen.trans (length_take_lineLength _).symm) hline, if_pos hstart,
          readFrom_lineFeed, readFrom_succ _ (n + 1)]
        exact ⟨_, _, _, rfl, rfl, .blank _ _, rfl⟩
      · -- after a lone carriage return, or at the end of the text, it joins this line
        have hlen : lineLength (((c :: cs).take (lineLength (c :: cs)) ++ ['\n']) ++
            (c :: cs).drop (lineLength (c :: cs))) =
            ((c :: cs).take (lineLength (c :: cs)) ++ ['\n']).length := by
          rw [List.append_assoc, List.singleton_append, lineLength_take_append_lineFeed _ hlf,
            List.length_append, length_take_lineLength, List.length_singleton]
        have hread :=
          readFrom_line (n := n) (by simp) hlen (Parser.line_append_lineFeed hline hstart)
        rw [List.append_assoc, List.singleton_append] at hread
        rw [hread, if_pos hstart]
        exact ⟨_, _, _, rfl, rfl, .same _, rfl⟩
    · -- the line feed goes after a later line, and this line stays as it is
      obtain ⟨A', hA', rfl, hlen⟩ := split_at_later_recordEnd hB hA
      rw [List.append_assoc, readFrom_line hne hlen hline, if_pos hstart]
      exact (ih hB hA' (n + 1)).cons _
  | case4 p c cs p' hline hopen ih =>
    obtain ⟨A', hA', rfl, hlen⟩ := split_at_later_recordEnd hB hA
    rw [readFrom_cons_of_line hline, if_neg hopen, List.append_assoc,
      readFrom_line (take_lineLength_ne_nil c cs) hlen hline, if_neg hopen]
    exact ih hB hA' (n + 1)

end RevenueOffice.Csv

namespace RevenueOffice

def LoadError.lineless : LoadError → LoadError
  | .wrongSize path _ count => .wrongSize path 0 count
  | e => e

section Rows

variable {path : String} {e : Csv.Ending}

theorem mapError_map_congr {α β : Type} {f : α → β} {x y : Except LoadError α}
    (h : x.mapError LoadError.lineless = y.mapError LoadError.lineless) :
    (x.map f).mapError LoadError.lineless = (y.map f).mapError LoadError.lineless := by
  cases x <;> cases y <;> simp_all [Except.map, Except.mapError]

theorem rowsOf_cons_congr {r r' : Csv.Record} (hf : r'.fields = r.fields)
    {rs rs' : List Csv.Record}
    (h : (rowsOf path rs e).mapError LoadError.lineless =
      (rowsOf path rs' e).mapError LoadError.lineless) :
    (rowsOf path (r :: rs) e).mapError LoadError.lineless =
      (rowsOf path (r' :: rs') e).mapError LoadError.lineless := by
  simp only [rowsOf, hf]
  split
  · exact h
  · split
    · exact mapError_map_congr h
    · rfl

theorem rowsOf_congr {rs rs' : List Csv.Record} (h : rs.map (·.fields) = rs'.map (·.fields)) :
    (rowsOf path rs e).mapError LoadError.lineless =
      (rowsOf path rs' e).mapError LoadError.lineless := by
  induction rs generalizing rs' with
  | nil =>
    obtain rfl : rs' = [] := List.map_eq_nil_iff.1 h.symm
    rfl
  | cons r rs ih =>
    obtain ⟨r', rs', rfl⟩ := List.exists_cons_of_ne_nil (show rs' ≠ [] by rintro rfl; simp at h)
    simp only [List.map_cons, List.cons.injEq] at h
    exact rowsOf_cons_congr h.1.symm (ih h.2)

theorem rowsOf_blank (m : Nat) (rs : List Csv.Record) :
    rowsOf path (⟨[], m⟩ :: rs) e = rowsOf path rs e := by
  simp [rowsOf]

theorem rowsOf_padded {rs rs' : List Csv.Record} (h : Csv.Padded rs rs') :
    (rowsOf path rs e).mapError LoadError.lineless =
      (rowsOf path rs' e).mapError LoadError.lineless := by
  induction h with
  | same => rfl
  | blank m rs =>
    rw [rowsOf_blank]
    exact rowsOf_congr (by simp [Function.comp_def, Csv.Record.later])
  | cons r _ ih => exact rowsOf_cons_congr rfl ih

end Rows

/-- A blank line put in at the end of a record of a register file changes neither the rows read
nor whether reading fails, but for the line a wrongly sized record is reported at. -/
theorem readRows_lineFeed_at_recordEnd (path : String) {bytes bytes' : List Nat}
    {A B : List Char} (hB : B ∈ Csv.recordEnds {} (A ++ B))
    (hfile : Utf8.decodeFile bytes = ⟨A ++ B, none⟩)
    (hfile' : Utf8.decodeFile bytes' = ⟨A ++ '\n' :: B, none⟩) :
    (readRows path (.ok bytes')).mapError LoadError.lineless =
      (readRows path (.ok bytes)).mapError LoadError.lineless := by
  obtain ⟨r, rs, rs', hrs, hrs', hpad, hend⟩ := Csv.readFrom_lineFeed_at_recordEnd hB rfl 0
  simp only [readRows, Csv.read, hfile, hfile', hrs, hrs', hend]
  exact (rowsOf_padded hpad).symm

theorem readRows_lineFeed_after_header :
    "0318,1,x,y\n".toList ∈
        Csv.recordEnds {} ("code,bin,name,region\n".toList ++ "0318,1,x,y\n".toList) ∧
      Utf8.decodeFile ("code,bin,name,region\n0318,1,x,y\n".toList.map Char.toNat) =
        ⟨"code,bin,name,region\n".toList ++ "0318,1,x,y\n".toList, none⟩ ∧
      Utf8.decodeFile ("code,bin,name,region\n\n0318,1,x,y\n".toList.map Char.toNat) =
        ⟨"code,bin,name,region\n".toList ++ '\n' :: "0318,1,x,y\n".toList, none⟩ ∧
      (readRows "ugd.csv" (.ok ("code,bin,name,region\n\n0318,1,x,y\n".toList.map
          Char.toNat))).mapError LoadError.lineless =
        (readRows "ugd.csv" (.ok ("code,bin,name,region\n0318,1,x,y\n".toList.map
          Char.toNat))).mapError LoadError.lineless := by
  have hB : "0318,1,x,y\n".toList ∈
      Csv.recordEnds {} ("code,bin,name,region\n".toList ++ "0318,1,x,y\n".toList) := by
    decide +kernel
  have ht : (Utf8.decodeFile ("code,bin,name,region\n0318,1,x,y\n".toList.map Char.toNat)).text =
      "code,bin,name,region\n".toList ++ "0318,1,x,y\n".toList := by decide +kernel
  have hf : (Utf8.decodeFile ("code,bin,name,region\n0318,1,x,y\n".toList.map
      Char.toNat)).failure = none := Option.isNone_iff_eq_none.1 (by decide +kernel)
  have ht' : (Utf8.decodeFile ("code,bin,name,region\n\n0318,1,x,y\n".toList.map
      Char.toNat)).text = "code,bin,name,region\n".toList ++ '\n' :: "0318,1,x,y\n".toList := by
    decide +kernel
  have hf' : (Utf8.decodeFile ("code,bin,name,region\n\n0318,1,x,y\n".toList.map
      Char.toNat)).failure = none := Option.isNone_iff_eq_none.1 (by decide +kernel)
  have hfile : Utf8.decodeFile ("code,bin,name,region\n0318,1,x,y\n".toList.map Char.toNat) =
      ⟨"code,bin,name,region\n".toList ++ "0318,1,x,y\n".toList, none⟩ := by
    rw [← ht, ← hf]
  have hfile' : Utf8.decodeFile ("code,bin,name,region\n\n0318,1,x,y\n".toList.map Char.toNat) =
      ⟨"code,bin,name,region\n".toList ++ '\n' :: "0318,1,x,y\n".toList, none⟩ := by
    rw [← ht', ← hf']
  exact ⟨hB, hfile, hfile', readRows_lineFeed_at_recordEnd "ugd.csv" hB hfile hfile'⟩

/-- A blank line before the header is read as the header, and the header as a row. -/
theorem readRows_blank_line_before_header :
    (readRows "ugd.csv" (.ok ("code,bin,name,region\n".toList.map Char.toNat))).toOption.map
        (·.map fun r => (r.code, r.bin, r.name, r.region)) = some [] ∧
      (readRows "ugd.csv" (.ok ("\ncode,bin,name,region\n".toList.map Char.toNat))).toOption.map
          (·.map fun r => (r.code, r.bin, r.name, r.region)) =
        some [(some "code", some "bin", some "name", some "region")] := by
  constructor <;> decide +kernel

namespace Files

theorem walk_error {fs : Files} {path root : String} {up : Nat} {here ps : List String}
    {e : FileError} (h : fs.walk path root up here ps = .error e) :
    e = .notDirectory path ∨ e = .missing path := by
  -- by induction on the parts left to follow; every part but the last steps into a directory
  induction ps generalizing up here with
  | nil => simp [walk] at h
  | cons part rest ih =>
    by_cases hp : part = ".."
    · -- `..` steps out of a directory, or stays at the top
      subst hp
      cases here with
      | nil => rw [walk.eq_2] at h; exact ih h
      | cons d ds => rw [walk.eq_3 _ _ _ _ _ _ (by simp)] at h; exact ih h
    · cases rest with
      | nil => rw [walk.eq_4 _ _ _ _ _ _ hp] at h; simp at h
      | cons next rest =>
        rw [walk.eq_5 _ _ _ _ _ _ _ hp (by simp)] at h
        split at h
        · simp_all
        · split at h
          · exact ih h
          · simp_all

theorem read_ne_nullByte {fs : Files} {path : String} (h : hasNull path = false) (q : String) :
    fs.read path ≠ .error (.nullByte q) := by
  simp only [read, h, Bool.false_eq_true, ↓reduceIte]
  split
  · next e he =>
    rcases walk_error he with rfl | rfl <;> simp
  · split
    · simp
    · split <;> simp

end Files

theorem loadRegisterFrom_of_no_null (files : Files) {path : String} (h : hasNull path = false) :
    loadRegisterFrom files path = .ok (loadRegister path (files.read path)) := by
  unfold loadRegisterFrom
  split
  · next p hp => exact absurd hp (Files.read_ne_nullByte h p)
  · rfl

/-- What loading gives from what was read: a register that names the path with one entry; if
reading failed, no office and an error entry saying why, and otherwise the office of every row,
in order, and an info entry counting them. -/
def LoadOutcome (path : String) (read : Except LoadError (List Row)) (t : Register)
    (entry : Log.Entry) : Prop :=
  t.source = some path ∧
    ((∃ e, read = .error e ∧ t.offices = [] ∧
        entry = Log.error
          ("Failed to load tax office reference data from " ++ path ++ ": " ++ e.message)) ∨
      (∃ rows, read = .ok rows ∧ t.offices = rows.map Register.officeOf ∧
        entry = Log.info ("Loaded " ++ toString t.size ++ " tax office records from " ++ path)))

theorem loadRegister_outcome (path : String) (file : Except FileError (List Nat)) :
    LoadOutcome path (readRows path file) (loadRegister path file).1 (loadRegister path file).2 := by
  unfold loadRegister
  split
  · next rows hrows =>
    refine ⟨rfl, .inr ⟨rows, hrows, rfl, ?_⟩⟩
    simp [Register.size, Register.ofRows]
  · next e he => exact ⟨rfl, .inl ⟨e, he, rfl, rfl⟩⟩

/-- Loading a register from a path without a null character never fails, whatever the files
hold, and gives what `LoadOutcome` says. -/
theorem loadRegisterFrom_total (files : Files) {path : String} (hpath : hasNull path = false) :
    ∃ t entry, loadRegisterFrom files path = .ok (t, entry) ∧
      LoadOutcome path (readRows path (files.read path)) t entry :=
  ⟨_, _, loadRegisterFrom_of_no_null files hpath, loadRegister_outcome path (files.read path)⟩

theorem loadRegisterFrom_total_of_empty_file :
    hasNull "ugd.csv" = false ∧
      ∃ t entry, loadRegisterFrom ⟨[("ugd.csv", [])], []⟩ "ugd.csv" = .ok (t, entry) ∧
        LoadOutcome "ugd.csv" (readRows "ugd.csv" (Files.read ⟨[("ugd.csv", [])], []⟩ "ugd.csv"))
          t entry := by
  have hpath : hasNull "ugd.csv" = false := by decide +kernel
  exact ⟨hpath, loadRegisterFrom_total _ hpath⟩

/-- A path with a null character cannot be loaded at all. -/
theorem loadRegisterFrom_null_path :
    loadRegisterFrom ⟨[("ugd.csv", "code,bin,name,region\n".toList.map Char.toNat)], []⟩
      "ugd\x00.csv" = .error (.nullByte "ugd\x00.csv") := by
  have hpath : hasNull "ugd\x00.csv" = true := by decide +kernel
  simp [loadRegisterFrom, Files.read, hpath]

end RevenueOffice
