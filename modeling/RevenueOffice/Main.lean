import RevenueOffice.Clock
import RevenueOffice.Evaluation.Run

/-!
# The evaluation command

Reads the files the run needs from the working directory, runs the evaluation, writes the files
it created, prints its output and exits with its code. The program's own data, the standard
cases, is part of it; its installation directory is the working directory.
-/

section

open RevenueOffice

def settingNames : List String :=
  ["UGD_REFERENCE_PATH", "UGD_MIN_CONFIDENCE", "UGD_CANDIDATE_FLOOR", "UGD_TOP_CANDIDATES",
    "ugd_reference_path", "ugd_min_confidence", "ugd_candidate_floor", "ugd_top_candidates"]

def environment : IO (List (String × String)) := do
  let found ← settingNames.mapM fun n => do pure ((← IO.getEnv n).map (n, ·))
  pure found.reduceOption

/-- The current moment, as the clock of a freshly written file shows it. -/
def now : IO Clock.Moment := do
  try
    let (h, path) ← IO.FS.createTempFile
    h.putStr ""
    h.flush
    let m ← path.metadata
    IO.FS.removeFile path
    pure ⟨m.modified.sec, m.modified.nsec.toNat / 1000000⟩
  catch _ => pure ⟨0, 0⟩

def addFiles (files : Files) (paths : List String) : IO Files :=
  paths.foldlM (fun (fs : Files) p => do
    let key := PathText.normal p
    if fs.hasFile key || fs.directories.contains key then return fs
    try
      let bytes ← IO.FS.readBinFile key
      return fs.withFile (key, bytes.toList.map (·.toNat))
    catch
      | .inappropriateType _ 21 _ => return fs.withDirectories [key]
      | _ => return fs) files

def main (args : List String) : IO UInt32 := do
  let inst : Evaluation.Installation := ⟨".", ⟨"tax_office_resolver", "dotenv.main"⟩⟩
  let moment ← now
  let env ← environment
  let invocation (files : Files) : Evaluation.Invocation :=
    { args, files, environment := env, time := moment.logText, stamp := moment.stamp }
  let mut files : Files := { entries := [] }
  for _ in [0:3] do
    files ← addFiles files (Evaluation.Invocation.reads inst (invocation files))
  match Evaluation.run inst (invocation files) with
  | .error e =>
    IO.eprintln e.message
    return 1
  | .ok report =>
    for d in report.output.dirs do
      IO.FS.createDirAll d
    for (p, text) in report.output.files do
      IO.FS.writeFile p text
    IO.print report.output.stdout
    IO.eprint report.output.stderr
    return report.exitCode.toUInt32

end
