import RevenueOffice.Text.Chars

/-!
# Settings files

A settings file holds bindings `NAME=value`, optionally after `export`, with single or double
quoted values that understand backslash escapes and may span lines, unquoted values that lose a
trailing comment, and comments. A binding that cannot be read is passed over to the end of its
line and reported by the line it starts on. References `${NAME}` and `${NAME:-fallback}` are then
replaced from earlier bindings and the environment; a name bound twice keeps its last value.
-/

set_option autoImplicit false

namespace RevenueOffice.EnvFile

def isInlineBlank (c : Char) : Bool := Text.isBlank c && c != '\r' && c != '\n'

def quotedBody (q : Char) (acc : List Char) : List Char → Option (List Char × List Char)
  | [] => none
  | '\\' :: c :: rest => quotedBody q (c :: '\\' :: acc) rest
  | c :: rest => if c = q then some (acc.reverse, rest)
    else if c = '\\' then none else quotedBody q (c :: acc) rest

/-- Replace the escapes of a quoted value: a backslash before one of `escapable` stands for what
`meaning` gives that character. -/
def unescape (escapable : List Char) (meaning : Char → Char) : List Char → List Char
  | '\\' :: c :: rest =>
    if escapable.contains c then meaning c :: unescape escapable meaning rest
    else '\\' :: unescape escapable meaning (c :: rest)
  | c :: rest => c :: unescape escapable meaning rest
  | [] => []

def controlMeaning (c : Char) : Char :=
  match c with
  | 'a' => '\x07'
  | 'b' => '\x08'
  | 'f' => '\x0c'
  | 'n' => '\n'
  | 'r' => '\r'
  | 't' => '\t'
  | 'v' => '\x0b'
  | c => c

def unquotedValue (line : List Char) : List Char :=
  let rec cut : List Char → List Char
    | [] => []
    | c :: rest =>
      if Text.isBlank c && (rest.dropWhile Text.isBlank).head? == some '#' then []
      else c :: cut rest
  ((cut line).reverse.dropWhile Text.isBlank).reverse

def skipLine (cs : List Char) : List Char :=
  match cs.dropWhile (· != '\n') with
  | '\n' :: rest => rest
  | rest => rest

def dropExport (cs : List Char) : List Char :=
  match cs with
  | 'e' :: 'x' :: 'p' :: 'o' :: 'r' :: 't' :: c :: rest =>
    if isInlineBlank c then rest.dropWhile isInlineBlank else cs
  | _ => cs

def nameOf (cs : List Char) : Option (Option String × List Char) :=
  match cs with
  | '#' :: _ => some (none, cs)
  | '\'' :: rest =>
    let k := rest.takeWhile (· != '\'')
    match rest.drop k.length with
    | '\'' :: more => if k.isEmpty then none else some (some (String.ofList k), more)
    | _ => none
  | _ =>
    let k := cs.takeWhile fun c => !(c == '=' || c == '#' || Text.isBlank c)
    if k.isEmpty then none else some (some (String.ofList k), cs.drop k.length)

def valueOf (cs : List Char) : Except (List Char) (Option String × List Char) :=
  match cs with
  | '=' :: rest =>
    let blanks := rest.takeWhile isInlineBlank
    let r := rest.drop blanks.length
    match r with
    | '\'' :: more =>
      match quotedBody '\'' [] more with
      | some (body, after) => .ok (some (String.ofList (unescape ['\\', '\''] id body)), after)
      | none => .error r
    | '"' :: more =>
      match quotedBody '"' [] more with
      | some (body, after) =>
        .ok (some (String.ofList (unescape ['\\', '\'', '"', 'a', 'b', 'f', 'n', 'r', 't', 'v']
          controlMeaning body)), after)
      | none => .error r
    | [] => .ok (some "", r)
    | '\n' :: _ => .ok (some "", r)
    | '#' :: _ =>
      if blanks.isEmpty then
        let line := r.takeWhile (· != '\n')
        .ok (some (String.ofList (unquotedValue line)), r.drop line.length)
      else .ok (some "", r)
    | _ =>
      let line := r.takeWhile (· != '\n')
      .ok (some (String.ofList (unquotedValue line)), r.drop line.length)
  | _ => .ok (none, cs)

def dropComment (cs : List Char) : List Char :=
  match cs.dropWhile isInlineBlank with
  | '#' :: rest => rest.dropWhile (· != '\n')
  | _ => cs

def endOfLine (cs : List Char) : Option (List Char) :=
  match cs.dropWhile isInlineBlank with
  | [] => some []
  | '\n' :: rest => some rest
  | _ => none

inductive Item where
  | binding (name : String) (value : Option String)
  | comment
  | unreadable

/-- Read one binding from a text that starts with neither a blank nor a line break: what it
gives, and the text after it. -/
def item (cs : List Char) : Item × List Char :=
  let cs := dropExport cs
  match nameOf cs with
  | none => (.unreadable, skipLine cs)
  | some (name, afterName) =>
    match valueOf (afterName.dropWhile isInlineBlank) with
    | .error stop => (.unreadable, skipLine stop)
    | .ok (value, afterValue) =>
      let afterComment := dropComment afterValue
      match endOfLine afterComment with
      | none => (.unreadable, skipLine afterComment)
      | some rest =>
        match name with
        | some n => (.binding n value, rest)
        | none => (.comment, rest)

def breaks (cs : List Char) : Nat := cs.count '\n'

def itemsFuel : Nat → Nat → List Char → List (Item × Nat)
  | 0, _, _ => []
  | fuel + 1, line, cs =>
    match cs.dropWhile Text.isBlank with
    | [] => []
    | start =>
      let (it, rest) := item start
      (it, line) :: itemsFuel fuel (line + breaks (cs.take (cs.length - rest.length))) rest

structure Reading where
  bindings : List (String × Option String)
  unreadable : List Nat

/-- Read the text of a settings file; every step reads at least one character. -/
def read (text : List Char) : Reading :=
  let text := match text with
    | '\uFEFF' :: rest => rest
    | _ => text
  let items := itemsFuel (text.length + 1) 1 text
  { bindings := items.filterMap fun (it, _) => match it with
      | .binding n v => some (n, v)
      | _ => none
    unreadable := items.filterMap fun (it, line) => match it with
      | .unreadable => some line
      | _ => none }

/-- Replace the references in a value, looking names up in `env`, with at most `fuel` steps. A
name bound to nothing stands for the empty text; a name not bound at all for the fallback. -/
def expandFuel (env : List (String × Option String)) : Nat → List Char → List Char
  | 0, cs => cs
  | fuel + 1, '$' :: '{' :: rest =>
    let name := rest.takeWhile fun c => c != '}' && c != ':'
    let after := rest.drop name.length
    let resolved (fallback more : List Char) : List Char :=
      (match env.lookup (String.ofList name) with
       | some v => (v.getD "").toList
       | none => fallback) ++ expandFuel env fuel more
    match after with
    | '}' :: more => resolved [] more
    | ':' :: '-' :: tail =>
      let fallback := tail.takeWhile (· != '}')
      match tail.drop fallback.length with
      | '}' :: more => resolved fallback more
      | _ => '$' :: expandFuel env fuel ('{' :: rest)
    | _ => '$' :: expandFuel env fuel ('{' :: rest)
  | fuel + 1, c :: rest => c :: expandFuel env fuel rest
  | _ + 1, [] => []

def expand (env : List (String × Option String)) (cs : List Char) : List Char :=
  expandFuel env (cs.length + 1) cs

/-- The values of a settings file's bindings: each name once, in the order it first appears,
with its last value, references replaced from the values so far and then the environment, or
with nothing if it has no value. -/
def values (environment : List (String × String)) (bindings : List (String × Option String)) :
    List (String × Option String) :=
  bindings.foldl (fun acc (k, v) =>
    let env := acc ++ environment.map fun (n, x) => (n, some x)
    let v := v.map fun v => String.ofList (expand env v.toList)
    if acc.any (·.1 == k) then acc.map fun (n, old) => if n == k then (n, v) else (n, old)
    else acc ++ [(k, v)]) []

end RevenueOffice.EnvFile
