import RevenueOffice.EnvFile
import RevenueOffice.Evaluation.Options
import RevenueOffice.Evaluation.Summary
import RevenueOffice.Log.Setup
import RevenueOffice.Office.Load
import RevenueOffice.Settings

/-!
# A run of the evaluation command

The command reads its options, sets up its logging, reads its settings from the environment and
the settings file, loads the register and stops with exit code 1 if it is empty. It then resolves
each case, logs a line per case and the accuracy, and writes the summary where it is asked to.
Help exits with 0 and a wrong command line with 2; any other failure stops the run with an error.
-/

set_option autoImplicit false

namespace RevenueOffice.Evaluation

/-- What a run is given: its command line, the files of its working directory, its environment,
and the time, as log lines and as file names write it. -/
structure Invocation where
  args : List String
  files : Files
  environment : List (String × String) := []
  time : String
  stamp : String

structure Installation where
  root : String
  names : Log.Names

def commandName : String := "evaluate_tax_office_matches"

def title : String := "Tax Office Resolution Evaluation"

structure Report where
  exitCode : Nat
  output : Log.Output

inductive RunError where
  | settings (e : Settings.Invalid)
  | settingsFile (f : Utf8.Failure)
  | cases (e : CasesError)
  | noLeadingCandidate
  | output (e : FileError)

def RunError.message : RunError → String
  | .settings e => e.message
  | .settingsFile f => f.message
  | .cases e => e.message
  | .noLeadingCandidate => "list index out of range"
  | .output e => e.message

def Invocation.settingsFile (inv : Invocation) : Except RunError EnvFile.Reading :=
  match inv.files.read ".env" with
  | .error _ => .ok ⟨[], []⟩
  | .ok bytes =>
    match Utf8.decodeStep true bytes with
    | .ok (cs, _) => .ok (EnvFile.read (Text.unifyBreaks cs))
    | .error f => .error (.settingsFile f)

def Invocation.settingsRead (inv : Invocation) : Except RunError (Settings × List Nat) := do
  let reading ← inv.settingsFile
  let file := EnvFile.values inv.environment reading.bindings
  match Settings.read { environment := inv.environment, file } with
  | .ok s => pure (s, reading.unreadable)
  | .error e => throw (.settings e)

def Invocation.settings (inv : Invocation) : Except RunError Settings :=
  inv.settingsRead.map (·.1)

def unreadableLine (line : Nat) : Log.Entry :=
  Log.warning ("python-dotenv could not parse statement starting at line " ++ toString line)

def resolveAll (r : Resolver) (logger : String) :
    Log.LogState → List Case → Except RunError (Log.LogState × List Outcome)
  | st, [] => .ok (st, [])
  | st, c :: cs =>
    match r.resolve c.input with
    | .error _ => .error .noLeadingCandidate
    | .ok (res, entries) =>
      match resolveAll r logger (st.logAll logger entries) cs with
      | .ok (st', outcomes) => .ok (st', ⟨c, res⟩ :: outcomes)
      | .error e => .error e

/-- The run of an evaluation with its options read. -/
def runWith (inst : Installation) (inv : Invocation) (o : Options) : Except RunError Report := do
  let st : Log.LogState := { loggers := inst.names.initial, time := inv.time }
  let (st, command) ← (Log.configure inst.names inv.files st commandName
    { toFile := o.logToFile } inv.stamp).mapError .output
  let st := st.logAll command (Log.headerLines title)
  let (settings, unreadable) ← inv.settingsRead
  let st := st.logAll inst.names.settingsReader (unreadable.map unreadableLine)
  let files := (inv.files.withDirectories st.out.dirs).withFile (standardCasesFile inst.root)
  let path := o.reference.getD (settings.registerPath (files.exists? "data/ugd.csv") inst.root)
  let (register, loaded) ← (loadRegisterFrom files path).mapError .output
  let st := st.log inst.names.loader loaded
  if register.isEmpty then
    return ⟨1, (st.log command (Log.error ("No reference data loaded from " ++ path))).out⟩
  let resolver : Resolver :=
    { register, minConfidence := settings.minConfidence, floor := settings.candidateFloor,
      leadingCount := settings.leadingCount }
  let cases ← (readCases files (o.cases.getD (standardCasesPath inst.root))).mapError .cases
  let (st, outcomes) ← resolveAll resolver inst.names.resolver st cases
  let summary : Summary := ⟨outcomes⟩
  let st := st.logAll command
    (outcomes.map (Log.info ·.line) ++ [Log.info "", Log.info summary.accuracyLine])
  match o.json with
  | none => return ⟨0, st.out⟩
  | some json =>
    let target ← (files.target json).mapError .output
    let st := { st with out := st.out.putFile target (summary.record.indented 0) }
    return ⟨0, (st.log command (Log.info ("Results written to " ++ json))).out⟩

/-- A run of the evaluation command. -/
def run (inst : Installation) (inv : Invocation) : Except RunError Report :=
  match parse inv.args with
  | .help => .ok ⟨0, { stdout := helpText }⟩
  | .error message => .ok ⟨2, { stderr := errorText message }⟩
  | .run o => runWith inst inv o

/-- The files a run reads, as far as the files it is given tell: the settings file, the local
copy of the register, the register it loads and the cases it reads. -/
def Invocation.reads (inst : Installation) (inv : Invocation) : List String :=
  match parse inv.args with
  | .run o =>
    let register := match inv.settings with
      | .ok s => [o.reference.getD (s.registerPath (inv.files.exists? "data/ugd.csv") inst.root)]
      | .error _ => []
    [".env", "data/ugd.csv"] ++ register ++ o.cases.toList
  | _ => []

def Report.created (r : Report) (files : Files) : List (String × String) :=
  r.output.files.filter fun (p, _) => !files.hasFile p

end RevenueOffice.Evaluation
