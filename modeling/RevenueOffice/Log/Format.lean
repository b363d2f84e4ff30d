import RevenueOffice.Log.Entry
import RevenueOffice.Template.Fill
import RevenueOffice.Text.Chars
import RevenueOffice.Text.Word

/-!
# Formats of log lines

A format is a template filled from the record of an entry: its logger, message, level, absent
exception and stack details, thread and process names, and the time when the format names
`%(asctime)`. A line that cannot be filled is not written. A format is accepted only if some part
of it reads as a field in the strict sense, its conversion letter compared ignoring case.
-/

set_option autoImplicit false

namespace RevenueOffice.Log

def isFlag (c : Char) : Bool := c == '#' || c == '0' || c == '+' || c == ' ' || c == '-'

def isConversionLetter (c : Char) : Bool :=
  "diouxefgcrsaDIOUXEFGCRSA%".toList.contains c || c == 'İ' || c == 'ı' || c == 'ſ'

def countPart (cs : List Char) : Option (List Char) :=
  match cs with
  | '*' :: rest => some rest
  | c :: _ =>
    if Text.isDecimalDigit c then some (cs.dropWhile Text.isDecimalDigit) else none
  | [] => none

/-- Whether a field in the strict sense starts here, after its percent sign. -/
def fieldStartsAt : List Char → Bool
  | '(' :: rest =>
    let key := rest.takeWhile Text.isWordChar
    match rest.drop key.length with
    | ')' :: more =>
      let more := more.dropWhile isFlag
      let more := (countPart more).getD more
      let more := match more with
        | '.' :: r => (countPart r).getD more
        | _ => more
      !key.isEmpty && (match more with | c :: _ => isConversionLetter c | [] => false)
    | _ => false
  | _ => false

/-- Whether a format holds a field in the strict sense somewhere. -/
def acceptsFormat : List Char → Bool
  | [] => false
  | c :: rest => (c == '%' && fieldStartsAt rest) || acceptsFormat rest

def formatError (format : String) : String :=
  "Invalid format '" ++ format ++ "' for '%' style"

def namesTime (format : List Char) : Bool := Text.occursIn "%(asctime)".toList format

def Entry.record (e : Entry) (source time : String) (format : List Char) :
    List (String × Template.Value) :=
  [("name", .text source), ("msg", .text e.message), ("levelname", .text e.level.name),
    ("levelno", .integer e.level.number), ("exc_info", .none), ("exc_text", .none),
    ("stack_info", .none), ("threadName", .text "MainThread"),
    ("processName", .text "MainProcess"), ("message", .text e.message)] ++
  (if namesTime format then [("asctime", .text time)] else [])

def wholeRecord (record : List (String × Template.Value)) : Template.Value :=
  .whole ("\x7b" ++ ", ".intercalate (record.map fun (k, v) => Text.literal k ++ ": " ++ v.literal)
    ++ "\x7d")

/-- The line an entry logged at the logger `source` gives under a format, without its line
break, or none if it cannot be filled. -/
def Entry.render (e : Entry) (source time : String) (format : String) : Option String :=
  let f := format.toList
  let record := e.record source time f
  (Template.fill record (wholeRecord record) f).map String.ofList

end RevenueOffice.Log
