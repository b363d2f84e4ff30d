import RevenueOffice.Csv.Reader
import RevenueOffice.Files
import RevenueOffice.Log.Entry
import RevenueOffice.Office.Register

/-!
# Loading the register from a file

The register file is UTF-8 text of comma-separated records whose first record is a header. A
record of blank values is skipped and any other must have exactly four. Reading fails at the first
problem in the file; loading fails only for a path with a null character, since a file that
cannot be read gives an empty register, and one log entry reports what happened.
-/

set_option autoImplicit false

namespace RevenueOffice

inductive LoadError where
  | unopenable (e : FileError)
  | undecodable (f : Utf8.Failure)
  | unreadable (e : Csv.Error)
  | wrongSize (path : String) (line count : Nat)

def LoadError.message : LoadError → String
  | .unopenable e => e.message
  | .undecodable f => f.message
  | .unreadable e => e.message
  | .wrongSize path line count =>
    path ++ ":" ++ toString line ++ ": expected 4 columns, got " ++ toString count

/-- The rows of the records after the header, stopping at the first failure. -/
def rowsOf (path : String) : List Csv.Record → Csv.Ending → Except LoadError (List Row)
  | [], .complete => .ok []
  | [], .error e => .error (.unreadable e)
  | [], .undecodable f => .error (.undecodable f)
  | r :: rs, ending =>
    let values := r.fields.map Text.trim
    if values.all (· == "") then rowsOf path rs ending
    else match values with
      | [code, bin, name, region] =>
        (rowsOf path rs ending).map (⟨some code, some bin, some name, some region⟩ :: ·)
      | _ => .error (.wrongSize path r.lineNumber values.length)

/-- The rows of a register file given by its bytes, or by why it cannot be opened. -/
def readRows (path : String) (file : Except FileError (List Nat)) : Except LoadError (List Row) :=
  match file with
  | .error e => .error (.unopenable e)
  | .ok bytes =>
    let rs := Csv.read (Utf8.decodeFile bytes)
    match rs.records with
    | [] => rowsOf path [] rs.ending
    | _ :: records => rowsOf path records rs.ending

/-- The register of a file, or the empty register if it cannot be read, with the entry that
reports it. -/
def loadRegister (path : String) (file : Except FileError (List Nat)) : Register × Log.Entry :=
  match readRows path file with
  | .ok rows =>
    (Register.ofRows rows (some path),
      Log.info ("Loaded " ++ toString rows.length ++ " tax office records from " ++ path))
  | .error e =>
    ({ offices := [], source := some path },
      Log.error ("Failed to load tax office reference data from " ++ path ++ ": " ++ e.message))

/-- The register at a path among the files, as `loadRegister` gives it, unless the path holds a
null character: such a path cannot even be tried, and loading stops with that error. -/
def loadRegisterFrom (files : Files) (path : String) : Except FileError (Register × Log.Entry) :=
  match files.read path with
  | .error (.nullByte p) => .error (.nullByte p)
  | file => .ok (loadRegister path file)

end RevenueOffice
