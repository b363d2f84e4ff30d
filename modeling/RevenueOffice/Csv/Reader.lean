import RevenueOffice.Utf8.Blocks

/-!
# Reading comma-separated records

Records are read line by line, a line ending after a line feed, a carriage return and line feed,
or a lone carriage return. A field that starts with a double quote may hold commas, line breaks
and doubled quotes; a quote elsewhere is an ordinary character. Each record is reported with the
number of lines read so far, and a field holds at most 131072 characters.
-/

set_option autoImplicit false

namespace RevenueOffice.Csv

def fieldLimit : Nat := 131072

inductive State where
  | startRecord
  | startField
  | inField
  | inQuoted
  | quoteInQuoted
  | afterLineBreak
  deriving DecidableEq, Repr

/-- A record being read: where the reader stands, the field so far, reversed, with its length,
and the fields done, reversed. -/
structure Parser where
  state : State := .startRecord
  field : List Char := []
  fieldLength : Nat := 0
  fields : List String := []

inductive Error where
  | fieldTooLarge
  deriving DecidableEq, Repr

def Error.message : Error → String
  | .fieldTooLarge => "field larger than field limit (" ++ toString fieldLimit ++ ")"

namespace Parser

def saveField (p : Parser) : Parser :=
  { p with field := [], fieldLength := 0, fields := String.ofList p.field.reverse :: p.fields }

def addChar (p : Parser) (c : Char) : Except Error Parser :=
  if fieldLimit ≤ p.fieldLength then .error .fieldTooLarge
  else .ok { p with field := c :: p.field, fieldLength := p.fieldLength + 1 }

def isLineBreak (c : Char) : Bool := c == '\n' || c == '\r'

def char (p : Parser) (c : Char) : Except Error Parser :=
  match p.state with
  | .startRecord =>
    if isLineBreak c then .ok { p with state := .afterLineBreak }
    else if c = '"' then .ok { p with state := .inQuoted }
    else if c = ',' then .ok { p.saveField with state := .startField }
    else (p.addChar c).map ({ · with state := .inField })
  | .startField =>
    if isLineBreak c then .ok { p.saveField with state := .afterLineBreak }
    else if c = '"' then .ok { p with state := .inQuoted }
    else if c = ',' then .ok { p.saveField with state := .startField }
    else (p.addChar c).map ({ · with state := .inField })
  | .inField =>
    if isLineBreak c then .ok { p.saveField with state := .afterLineBreak }
    else if c = ',' then .ok { p.saveField with state := .startField }
    else p.addChar c
  | .inQuoted =>
    if c = '"' then .ok { p with state := .quoteInQuoted } else p.addChar c
  | .quoteInQuoted =>
    if c = '"' then (p.addChar c).map ({ · with state := .inQuoted })
    else if c = ',' then .ok { p.saveField with state := .startField }
    else if isLineBreak c then .ok { p.saveField with state := .afterLineBreak }
    else (p.addChar c).map ({ · with state := .inField })
  | .afterLineBreak => .ok p

def endOfLine (p : Parser) : Parser :=
  match p.state with
  | .startRecord => p
  | .startField | .inField | .quoteInQuoted => { p.saveField with state := .startRecord }
  | .inQuoted => p
  | .afterLineBreak => { p with state := .startRecord }

def line (p : Parser) : List Char → Except Error Parser
  | [] => .ok p.endOfLine
  | c :: cs =>
    match p.char c with
    | .ok p' => p'.line cs
    | .error e => .error e

end Parser

def lineLength : List Char → Nat
  | [] => 0
  | '\n' :: _ => 1
  | '\r' :: '\n' :: _ => 2
  | '\r' :: _ => 1
  | _ :: rest => lineLength rest + 1

def lineEnded : List Char → Bool
  | [] => false
  | '\n' :: _ => true
  | '\r' :: _ => true
  | _ :: rest => lineEnded rest

theorem lineLength_pos (c : Char) (cs : List Char) : 0 < lineLength (c :: cs) := by
  unfold lineLength
  split <;> first | omega | simp_all

structure Record where
  fields : List String
  lineNumber : Nat

/-- How reading ended: at the end of the text, at a reading error, or where the text failed to
decode. -/
inductive Ending where
  | complete
  | error (e : Error)
  | undecodable (f : Utf8.Failure)

structure Records where
  records : List Record
  ending : Ending

/-- Read records with the parser `p` after `lines` lines, from `text`, which `failure` cuts off
if it is given. -/
def readFrom (p : Parser) (lines : Nat) (failure : Option Utf8.Failure) (text : List Char) :
    Records :=
  match text with
  | [] =>
    match failure with
    | some f => ⟨[], .undecodable f⟩
    | none =>
      if p.state = .inQuoted || p.fieldLength ≠ 0 then
        ⟨[⟨(p.saveField.fields).reverse, lines⟩], .complete⟩
      else ⟨[], .complete⟩
  | c :: cs =>
    let n := lineLength (c :: cs)
    match failure, lineEnded (c :: cs) with
    | some f, false => ⟨[], .undecodable f⟩
    | _, _ =>
      match p.line ((c :: cs).take n) with
      | .error e => ⟨[], .error e⟩
      | .ok p' =>
        if p'.state = .startRecord then
          let more := readFrom {} (lines + 1) failure ((c :: cs).drop n)
          ⟨⟨p'.fields.reverse, lines + 1⟩ :: more.records, more.ending⟩
        else readFrom p' (lines + 1) failure ((c :: cs).drop n)
termination_by text.length
decreasing_by
  all_goals
    have := lineLength_pos c cs
    simp only [List.length_drop, List.length_cons]
    omega

def read (d : Utf8.Decoded) : Records := readFrom {} 0 d.failure d.text

end RevenueOffice.Csv
