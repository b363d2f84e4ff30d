import RevenueOffice.Template.Conversion

/-!
# Filling a template

A template is text with fields `%(key)` followed by flags, a width, a precision, a skipped length
letter and a conversion letter, and `%%` for a percent sign. A field without a key writes the
value at hand, the whole record at the start of the template and later the value of the last key,
each value serving one field only. Filling gives nothing at all if any field fails.
-/

set_option autoImplicit false

namespace RevenueOffice.Template

def widthLimit : Nat := 9223372036854775807

def precisionLimit : Nat := 2147483647

def leadingNumber (cs : List Char) : List Char × Nat :=
  let ds := cs.takeWhile fun c => '0' ≤ c && c ≤ '9'
  (ds, ds.foldl (fun acc c => acc * 10 + (c.toNat - '0'.toNat)) 0)

/-- The key of a field after its opening parenthesis, and what follows the closing one: the
text up to the parenthesis that brings the count of open ones to zero. -/
def keyOf : Nat → List Char → List Char → Option (List Char × List Char)
  | _, _, [] => none
  | depth, acc, ')' :: rest =>
    if depth = 0 then some (acc.reverse, rest) else keyOf (depth - 1) (')' :: acc) rest
  | depth, acc, '(' :: rest => keyOf (depth + 1) ('(' :: acc) rest
  | depth, acc, c :: rest => keyOf depth (c :: acc) rest

def flagsOf (f : Flags) : List Char → Flags × List Char
  | [] => (f, [])
  | c :: rest =>
    match f.set? c with
    | some f' => flagsOf f' rest
    | none => (f, c :: rest)

/-- Read what follows a field's key: flags, width, precision, a length letter and the conversion
letter, and the text after the field. -/
def specOf (cs : List Char) : Option (Spec × List Char) :=
  let (flags, cs) := flagsOf {} cs
  if cs.head? == some '*' then none else
  let (wds, width) := leadingNumber cs
  let cs := cs.drop wds.length
  let precision : Option (Option Nat × List Char) :=
    match cs with
    | '.' :: rest =>
      if rest.head? == some '*' then none
      else
        let (pds, p) := leadingNumber rest
        some (some p, rest.drop pds.length)
    | _ => some (none, cs)
  match precision with
  | none => none
  | some (precision, cs) =>
    if width > widthLimit || (precision.getD 0) > precisionLimit then none else
    let cs := match cs with
      | 'h' :: rest | 'l' :: rest | 'L' :: rest => rest
      | _ => cs
    match cs with
    | c :: rest => some ({ flags, width, precision, conversion := c }, rest)
    | [] => none

/-- Fill a template from the values of a record, with the value at hand `next` for a field
without a key, with at most `fuel` steps. -/
def fillFuel (record : List (String × Value)) : Nat → Option Value → List Char → Option (List Char)
  | _, _, [] => some []
  | 0, _, _ :: _ => none
  | fuel + 1, next, '%' :: '%' :: rest => (fillFuel record fuel next rest).map ('%' :: ·)
  | fuel + 1, _, '%' :: '(' :: rest => do
    let (key, afterKey) ← keyOf 0 [] rest
    let v ← record.lookup (String.ofList key)
    let (spec, after) ← specOf afterKey
    let here ← spec.render v
    let more ← fillFuel record fuel none after
    pure (here ++ more)
  | fuel + 1, next, '%' :: rest => do
    let v ← next
    let (spec, after) ← specOf rest
    let here ← spec.render v
    let more ← fillFuel record fuel none after
    pure (here ++ more)
  | fuel + 1, next, c :: rest => (fillFuel record fuel next rest).map (c :: ·)

/-- Fill a template from the values of a record, the record as a whole being `whole`, or nothing
if it cannot be filled. -/
def fill (record : List (String × Value)) (whole : Value) (template : List Char) :
    Option (List Char) :=
  fillFuel record (template.length + 1) (some whole) template

end RevenueOffice.Template
