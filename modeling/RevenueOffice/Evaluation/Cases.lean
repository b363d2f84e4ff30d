import RevenueOffice.Csv.Reader
import RevenueOffice.Files
import RevenueOffice.Text.Chars

/-!
# Labelled cases

A case file is UTF-8 text of comma-separated records, read with its line breaks unified, whose
first record names the columns. Every later record that is not empty is a case: a locality under
`input` and the expected office code under `expected_code`. The program comes with thirty cases of
its own in its data directory.
-/

set_option autoImplicit false

namespace RevenueOffice.Evaluation

structure Case where
  input : Option String
  expected : Option String

inductive CasesError where
  | missing (path : String)
  | unopenable (e : FileError)
  | undecodable (f : Utf8.Failure)
  | unreadable (e : Csv.Error)
  | noColumn (name : String)

def CasesError.message : CasesError → String
  | .missing path => path ++ " not found"
  | .unopenable e => e.message
  | .undecodable f => f.message
  | .unreadable e => e.message
  | .noColumn name => Text.literal name

/-- The value of a record under a column: none if no column has the name, `some none` if the
record is too short to reach it. -/
def valueUnder (header fields : List String) (name : String) : Option (Option String) :=
  let values := fields.map some ++ List.replicate (header.length - fields.length) none
  ((header.zip values).reverse).lookup name

def Case.ofRecord (header fields : List String) : Except CasesError Case :=
  match valueUnder header fields "input" with
  | none => .error (.noColumn "input")
  | some input =>
    let expected := match valueUnder header fields "expected_code" with
      | some (some v) => if Text.trim v = "" then none else some (Text.trim v)
      | _ => none
    .ok ⟨input, expected⟩

def casesOf : List Csv.Record → Except CasesError (List Case)
  | [] => .ok []
  | header :: rest =>
    (rest.filter (!·.fields.isEmpty)).mapM fun r => Case.ofRecord header.fields r.fields

/-- The cases of a file. -/
def readCases (files : Files) (path : String) : Except CasesError (List Case) :=
  if !files.exists? path then .error (.missing path) else
  match files.read path with
  | .error e => .error (.unopenable e)
  | .ok bytes =>
    let d := Utf8.decodeFileKeepingMark bytes
    let rs := Csv.read ⟨Text.unifyBreaks d.text, d.failure⟩
    match rs.ending with
    | .error e => .error (.unreadable e)
    | .undecodable f => .error (.undecodable f)
    | .complete => casesOf rs.records

def standardCasesPath (root : String) : String :=
  PathText.join root "data/ugd_evaluation_cases.csv"

def standardCasesText : String :=
  "input,expected_code\n" ++
  "ЕСИЛЬ,0318\n" ++
  "г. Есиль,0318\n" ++
  "Есильский район,0318\n" ++
  "\"ГОРОД АСТАНА, РАЙОН ЕСИЛЬ\",6205\n" ++
  "\"Астана, Есиль\",6205\n" ++
  "Астана,6205\n" ++
  "НУР-СУЛТАН,6205\n" ++
  "\"Алматы, Бостандыкский район\",6004\n" ++
  "Бостандыкский,6004\n" ++
  "г. Алматы,6003\n" ++
  "АЛМАТЫ,6003\n" ++
  "Сатпаев,7206\n" ++
  "город Сатпаев,7206\n" ++
  "Семей,7111\n" ++
  "г. Семей,7111\n" ++
  "АКТОБЕ,0618\n" ++
  "г.Актобе,0618\n" ++
  "Атырау,1510\n" ++
  "Павлодар,4515\n" ++
  "\"Шымкент, Абайский район\",5904\n" ++
  "Шымкент,5903\n" ++
  "Несуществующий Город,\n" ++
  "район Казыбек би,3020\n" ++
  "Казыбек би,3020\n" ++
  "Морпорт Актау,4309\n" ++
  "Астана-жаңа қала,6206\n" ++
  "\"  г. Астана  , район Есиль.  \",6205\n" ++
  "Алматы и Бостандыкский,6004\n" ++
  "\"FakeCity, Есиль (Астана)\",6205\n" ++
  "\"Есиль (Акмолинская), ДругойРайон\",0318\n"

def standardCasesFile (root : String) : String × List Nat :=
  (standardCasesPath root, standardCasesText.toUTF8.toList.map (·.toNat))

end RevenueOffice.Evaluation
