import RevenueOffice.Decimal.Binary
import RevenueOffice.PathText
import RevenueOffice.Text.Normal

/-!
# Settings

Four settings tune the program: the register path, the confidence threshold, the score floor and
the number of leading candidates, at least one. Each comes from the first source that gives it:
values given directly, the environment, the settings file, and last its standard value. Numbers
are read as pydantic reads an integer (`intOfText`, `intOfReal`), and every setting that cannot be
read is reported by name, in alphabetical order.
-/

set_option autoImplicit false

namespace RevenueOffice

inductive SettingValue where
  | text (s : String)
  | integer (n : Int)
  | real (negative : Bool) (magnitude : Decimal.Binary)
  | flag (b : Bool)
  | null
  | other

structure Settings where
  referencePath : Option String := none
  minConfidence : Int := 50
  candidateFloor : Int := -100
  leadingCount : Int := 5
  leadingCount_pos : 1 ≤ leadingCount := by decide

namespace Settings

def isNumberBlank (c : Char) : Bool := Text.isBlank c && !(0x1C ≤ c.toNat && c.toNat ≤ 0x1F)

def digitLimit : Nat := 4300

def strictInteger (cs : List Char) : Option Int :=
  let (neg, body) := match cs with
    | '-' :: rest => (true, rest)
    | _ => (false, cs)
  if body.isEmpty || !body.all (fun c => '0' ≤ c && c ≤ '9') || digitLimit < body.length ||
      (body.head? == some '0' && 1 < body.length) then none
  else
    let n : Int := body.foldl (fun acc c => acc * 10 + (c.toNat - '0'.toNat)) 0
    some (if neg then -n else n)

def dropLeadingZeros (cs : List Char) : Option (List Char) :=
  match cs with
  | '0' :: rest =>
    let rec go (prev : Char) : List Char → List Char
      | [] => [prev]
      | c :: more =>
        if c = '0' || c = '_' then go c more
        else if ('1' ≤ c && c ≤ '9') || c = '-' then c :: more
        else if c = '.' then prev :: c :: more
        else []
    match go '0' rest with
    | [] => none
    | r => some r
  | c :: _ => if '1' ≤ c && c ≤ '9' then some cs else none
  | [] => none

def dropZeroFraction (cs : List Char) : List Char :=
  match cs.findIdx? (· == '.') with
  | some i =>
    let frac := cs.drop (i + 1)
    if !frac.isEmpty && frac.all (· == '0') then cs.take i else cs
  | none => cs

def dropUnderscores (cs : List Char) : Option (List Char) :=
  if cs.head? == some '_' || cs.getLast? == some '_' ||
      (cs.zip (cs.drop 1)).any (fun (a, b) => a == '_' && b == '_') then none
  else some (cs.filter (· != '_'))

/-- An integer written as text. The text is trimmed and its sign, `+` or `-`, set aside. The
rest must start with a digit: zeros and underscores in front are dropped (up to a minus sign
too, which then stays), a point followed only by zeros at the end is dropped, and so are
underscores, if none stands at either end and no two stand together. What is left, after the
sign set aside, must be an integer in the strict form. -/
def intOfText (s : String) : Option Int := do
  let t := ((s.toList.dropWhile isNumberBlank).reverse.dropWhile isNumberBlank).reverse
  let (sign, body) := match t with
    | '-' :: rest => (['-'], rest)
    | '+' :: rest => ([], rest)
    | _ => ([], t)
  let body ← dropLeadingZeros body
  let body := dropZeroFraction body
  let body ← if body.contains '_' then dropUnderscores body else some body
  strictInteger (sign ++ body)

def realLimit : Nat := 9223372036854775808

/-- A binary value read as an integer: it must be whole and lie strictly between `-2 ^ 63` and
`2 ^ 63`. -/
def intOfReal (negative : Bool) (b : Decimal.Binary) : Option Int :=
  let (n, d) := b.ratio
  if n % d ≠ 0 || realLimit ≤ n / d then none
  else some (if negative then -((n / d : Nat) : Int) else (n / d : Nat))

def intOf : SettingValue → Option Int
  | .text s => intOfText s
  | .integer n => some n
  | .real negative b => intOfReal negative b
  | .flag b => some (if b then 1 else 0)
  | .null | .other => none

def pathOf : SettingValue → Option (Option String)
  | .text s => let t := Text.trim s; some (if t.isEmpty then none else some (PathText.normal t))
  | .null => some none
  | _ => none

def names : List String :=
  ["ugd_reference_path", "ugd_min_confidence", "ugd_candidate_floor", "ugd_top_candidates"]

structure Invalid where
  names : List String

def Invalid.message (e : Invalid) : String :=
  ",".intercalate (e.names.mergeSort (fun a b => decide (a ≤ b)))

/-- The sources of settings, strongest first. -/
structure Sources where
  given : List (String × SettingValue) := []
  environment : List (String × String) := []
  file : List (String × Option String) := []

/-- The value given for a setting: under its own name, or under a name that equals it when
lowercased, the last of these winning, its own name counting as the first. A value given again
under the same name overrides the earlier one, as a keyword argument set again does. -/
def Sources.givenValue? (src : Sources) (name : String) : Option SettingValue :=
  let exact := src.given.filter (·.1 == name)
  let others := src.given.filter fun kv => kv.1 != name && Text.lowercase kv.1 == name
  (exact ++ others).getLast?.map (·.2)

def Sources.find? (src : Sources) (name : String) : Option SettingValue :=
  match src.givenValue? name with
  | some v => some v
  | none =>
    let lower {α : Type} (kv : String × α) := (Text.lowercase kv.1, kv.2)
    match ((src.environment.map lower).reverse.lookup name) with
    | some v => some (.text v)
    | none => (((src.file.map lower).reverse.lookup name).bind id).map .text

/-- Read the settings from their sources. -/
def read (src : Sources) : Except Invalid Settings :=
  let path := match src.find? "ugd_reference_path" with
    | some v => pathOf v
    | none => some none
  let number (name : String) (standard : Int) : Option Int :=
    match src.find? name with
    | some v => intOf v
    | none => some standard
  let minConfidence := number "ugd_min_confidence" 50
  let floor := number "ugd_candidate_floor" (-100)
  let leading := (number "ugd_top_candidates" 5).filter (1 ≤ ·)
  match path, minConfidence, floor, leading with
  | some p, some m, some f, some n =>
    if h : 1 ≤ n then .ok ⟨p, m, f, n, h⟩ else .error ⟨["ugd_top_candidates"]⟩
  | _, _, _, _ =>
    .error ⟨(if path.isNone then ["ugd_reference_path"] else []) ++
      (if minConfidence.isNone then ["ugd_min_confidence"] else []) ++
      (if floor.isNone then ["ugd_candidate_floor"] else []) ++
      (if leading.isNone then ["ugd_top_candidates"] else [])⟩

/-- The register file: the configured path, else `data/ugd.csv` if it exists in the working
directory, else the one in the program's data directory. -/
def registerPath (s : Settings) (localCopyExists : Bool) (projectRoot : String) : String :=
  match s.referencePath with
  | some p => p
  | none => if localCopyExists then "data/ugd.csv" else PathText.join projectRoot "data/ugd.csv"

end Settings

end RevenueOffice
