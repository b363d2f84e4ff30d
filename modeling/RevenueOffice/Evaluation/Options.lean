import RevenueOffice.PathText
import RevenueOffice.Text.Chars
import RevenueOffice.Text.Quoted

/-!
# Options of the evaluation command

The command takes `--reference`, `--cases` and `--json` with a path, the flag `--log-to-file` and
`-h`/`--help`. A long option may be shortened to any prefix that names only it. The words before a
lone `--` are classified first, then read in order: help stops reading, and a missing or unwanted
value, or a word left over, is an error.
-/

set_option autoImplicit false

namespace RevenueOffice.Evaluation

structure Options where
  reference : Option String := none
  cases : Option String := none
  json : Option String := none
  logToFile : Bool := false

inductive Parsed where
  | run (o : Options)
  | help
  | error (message : String)

inductive Opt where
  | help
  | reference
  | cases
  | json
  | logToFile
  deriving DecidableEq, Repr

def spellings : List (String × Opt) :=
  [("-h", .help), ("--help", .help), ("--reference", .reference), ("--cases", .cases),
    ("--json", .json), ("--log-to-file", .logToFile)]

def Opt.title : Opt → String
  | .help => "-h/--help"
  | .reference => "--reference"
  | .cases => "--cases"
  | .json => "--json"
  | .logToFile => "--log-to-file"

def Opt.takesValue : Opt → Bool
  | .reference | .cases | .json => true
  | .help | .logToFile => false

inductive Word where
  | option (o : Opt) (attached : Option String)
  | helpRun (tail : List Char)
  | unknown
  | separator
  | plain

def isNegativeNumber (w : List Char) : Bool :=
  match w with
  | '-' :: rest =>
    let whole := rest.takeWhile Text.isDecimalDigit
    match rest.drop whole.length with
    | [] => !whole.isEmpty
    | '.' :: frac => !frac.isEmpty && frac.all Text.isDecimalDigit
    | _ => false
  | _ => false

/-- Whether a word reads as a negative number, also before one final line break. -/
def looksNegative (w : List Char) : Bool :=
  isNegativeNumber w || (w.getLast? == some '\n' && isNegativeNumber w.dropLast)

/-- How a word that starts with `-`, and is not a spelling itself, reads, or the error of an
abbreviation that names several options. -/
def classifyDashed (w : String) (cs : List Char) : Except String Word :=
  let name := cs.takeWhile (· != '=')
  let attached := match cs.drop name.length with
    | '=' :: v => some (String.ofList v)
    | _ => none
  match attached.bind (fun _ => spellings.lookup (String.ofList name)) with
  | some o =>
    match o, attached with
    | .help, some v => .ok (if name.length = 2 && !v.isEmpty then .helpRun v.toList
      else .option o attached)
    | _, _ => .ok (.option o attached)
  | none =>
    let candidates : List (String × Word) :=
      if cs.take 2 == ['-', '-'] then
        (spellings.filter (·.1.startsWith (String.ofList name))).map fun (s, o) =>
          (s, .option o attached)
      else
        spellings.filterMap fun (s, o) =>
          if s == String.ofList (cs.take 2) then some (s, .helpRun (cs.drop 2))
          else if s.startsWith w then some (s, .option o none) else none
    match candidates with
    | [(_, word)] => .ok word
    | [] => .ok (if looksNegative cs || cs.contains ' ' then .plain else .unknown)
    | ms => .error ("ambiguous option: " ++ w ++ " could match " ++ ", ".intercalate (ms.map (·.1)))

def classify (w : String) : Except String Word :=
  let cs := w.toList
  if cs.head? != some '-' then .ok .plain
  else match spellings.lookup w with
    | some o => .ok (.option o none)
    | none => if cs.length = 1 then .ok .plain else classifyDashed w cs

def Options.set (o : Options) (opt : Opt) (value : String) : Options :=
  match opt with
  | .reference => { o with reference := some (PathText.normal value) }
  | .cases => { o with cases := some (PathText.normal value) }
  | .json => { o with json := some (PathText.normal value) }
  | .logToFile => { o with logToFile := true }
  | .help => o

def ignoredValue (opt : Opt) (value : String) : Parsed :=
  .error ("argument " ++ opt.title ++ ": ignored explicit argument " ++ Text.literal value)

/-- Read the characters given to `-h` in one word, right after it or after `=`: each `h` asks
for help again and hands the rest on; any other character is an error that names what is left,
itself included. -/
def helpRun : List Char → Parsed
  | [] => .help
  | 'h' :: rest => helpRun rest
  | cs => ignoredValue .help (String.ofList cs)

def readWords (o : Options) (extras : List String) :
    List (String × Word) → Parsed
  | [] =>
    if extras.isEmpty then .run o
    else .error ("unrecognized arguments: " ++ " ".intercalate extras.reverse)
  | (_, .helpRun tail) :: _ => helpRun tail
  | (_, .option opt attached) :: rest =>
    match attached with
    | some v => if opt.takesValue then readWords (o.set opt v) extras rest else ignoredValue opt v
    | none =>
      if opt = .help then .help
      else if !opt.takesValue then readWords (o.set opt "") extras rest
      else match rest with
        | (v, .plain) :: more => readWords (o.set opt v) extras more
        | _ => .error ("argument " ++ opt.title ++ ": expected one argument")
  | (w, _) :: rest => readWords o (w :: extras) rest

/-- Read a command line. -/
def parse (args : List String) : Parsed :=
  let before := args.takeWhile (· != "--")
  let after := match args.drop before.length with
    | [] => []
    | sep :: plain => (sep, Word.separator) :: plain.map (·, Word.plain)
  match before.mapM (fun w => (classify w).map (w, ·)) with
  | .error m => .error m
  | .ok words => readWords {} [] (words ++ after)

def usage : String :=
  "usage: evaluate_tax_office_matches.py [-h] [--reference REFERENCE]\n" ++
  "                                      [--cases CASES] [--json JSON]\n" ++
  "                                      [--log-to-file]\n"

def helpText : String :=
  usage ++ "\nEvaluate tax office resolution\n\noptions:\n" ++
  "  -h, --help            show this help message and exit\n" ++
  "  --reference REFERENCE\n" ++
  "                        Reference CSV (default: UGD_REFERENCE_PATH or\n" ++
  "                        data/ugd.csv)\n" ++
  "  --cases CASES         Cases CSV with input,expected_code columns\n" ++
  "  --json JSON           Write results as JSON\n" ++
  "  --log-to-file         Also write DEBUG logs (scoring traces) to logs/\n"

def errorText (message : String) : String :=
  usage ++ "evaluate_tax_office_matches.py: error: " ++ message ++ "\n"

end RevenueOffice.Evaluation
