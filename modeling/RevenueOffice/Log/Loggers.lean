import RevenueOffice.Log.Format

/-!
# Loggers and handlers

Loggers are named and form a tree under a root. A logger comes into being the first time its name
is used, under the nearest existing logger among the names above it, and adopts the loggers below
it that were waiting for it. An entry logged at a logger passes its effective threshold, then goes
to the handlers of it and of the loggers above it up to the first that does not pass entries on;
if it meets none, a warning or worse is written to standard error.
-/

set_option autoImplicit false

namespace RevenueOffice.Log

inductive Sink where
  | stdout
  | stderr
  | file (path : String)
  deriving DecidableEq, Repr

/-- What kind of handler it is. Setups remove handlers by kind: console writers to a stream, but
not file writers, nor writers that keep out of the way of a progress display. -/
inductive HandlerKind where
  | discard
  | stream
  | file
  | progressSafe
  deriving DecidableEq, Repr

structure Handler where
  kind : HandlerKind
  sink : Sink
  threshold : Int := 0
  format : String := "%(message)s"

/-- A logger: its threshold (0 for none), its handlers, whether it passes entries upwards, and its
parent, none for the root. -/
structure Logger where
  threshold : Int := 0
  handlers : List Handler := []
  propagate : Bool := true
  parent : Option String := none

/-- The loggers of a program: the root, the others by name in order of creation, and the names
looked at that have no logger yet, each with the loggers below it that looked. -/
structure Loggers where
  root : Logger := { threshold := 30 }
  named : List (String × Logger) := []
  waiting : List (String × List String) := []

def isRootName (name : String) : Bool := name == "" || name == "root"

def rootName : String := "root"

def cuts (cs : List Char) : List Nat → Nat → List String
  | [], _ => []
  | d :: ds, limit =>
    if d < limit then
      if d = 0 then [] else String.ofList (cs.take d) :: cuts cs ds (d - 1)
    else cuts cs ds limit

/-- The names above a name where its parent is looked for, nearest first. -/
def namesAbove (name : String) : List String :=
  let cs := name.toList
  let dots := ((List.range cs.length).filter fun i => cs[i]? == some '.').reverse
  cuts cs dots (cs.length + 1)

example : namesAbove "a.b.c" = ["a.b", "a"] := by decide
example : namesAbove "a..b" = ["a."] := by decide
example : namesAbove ".x" = [] := by decide

namespace Loggers

def get (ls : Loggers) (name : String) : Logger :=
  if isRootName name then ls.root else (ls.named.lookup name).getD {}

def exists? (ls : Loggers) (name : String) : Bool := (ls.named.lookup name).isSome

def put (ls : Loggers) (name : String) (l : Logger) : Loggers :=
  if isRootName name then { ls with root := l }
  else { ls with named := ls.named.map fun (n, old) => if n = name then (n, l) else (n, old) }

def parentName (ls : Loggers) (name : String) : String := ((ls.get name).parent).getD rootName

def await (ls : Loggers) (above name : String) : Loggers :=
  match ls.waiting.lookup above with
  | some below =>
    if below.contains name then ls
    else { ls with waiting := ls.waiting.map fun (n, bs) => if n = above then (n, bs ++ [name])
      else (n, bs) }
  | none => { ls with waiting := ls.waiting ++ [(above, [name])] }

/-- Give a new logger its parent: the first name above it that has a logger, remembering the new
logger at each name looked at before it. -/
def attach (ls : Loggers) (name : String) : Loggers :=
  let rec go (ls : Loggers) : List String → Loggers × Option String
    | [] => (ls, none)
    | above :: rest =>
      if ls.exists? above then (ls, some above) else go (ls.await above name) rest
  let (ls, parent) := go ls (namesAbove name)
  ls.put name { ls.get name with parent }

/-- Move under a new logger the loggers below it that were waiting, unless their parent's name
starts with its name. -/
def adopt (ls : Loggers) (name : String) (below : List String) : Loggers :=
  below.foldl (fun ls child =>
    if (ls.parentName child).toList.take name.length == name.toList then ls
    else ls.put child { ls.get child with parent := some name }) ls

def obtain (ls : Loggers) (name : String) : Loggers :=
  if isRootName name || ls.exists? name then ls else
  let below := (ls.waiting.lookup name).getD []
  let ls := { ls with named := ls.named ++ [(name, ({} : Logger))]
                      waiting := ls.waiting.filter (·.1 != name) }
  (ls.adopt name below).attach name

def set (ls : Loggers) (name : String) (l : Logger) : Loggers :=
  let ls := ls.obtain name
  ls.put name { l with parent := (ls.get name).parent }

def modify (ls : Loggers) (name : String) (f : Logger → Logger) : Loggers :=
  let ls := ls.obtain name
  let l := ls.get name
  ls.put name { f l with parent := l.parent }

def chainFuel (ls : Loggers) : Nat → String → List Logger
  | 0, _ => [ls.root]
  | fuel + 1, name =>
    if isRootName name then [ls.root]
    else
      let l := ls.get name
      l :: ls.chainFuel fuel (l.parent.getD rootName)

def chain (ls : Loggers) (name : String) : List Logger := ls.chainFuel (ls.named.length + 1) name

end Loggers

def effectiveThreshold : List Logger → Int
  | [] => 0
  | l :: ls => if l.threshold ≠ 0 then l.threshold else effectiveThreshold ls

/-- The handlers an entry meets along a chain, up to the first logger that does not pass entries
upwards. -/
def handlersMet : List Logger → List Handler
  | [] => []
  | l :: ls => l.handlers ++ (if l.propagate then handlersMet ls else [])

structure Write where
  sink : Sink
  text : String

/-- What a handler writes for an entry logged at the logger `source`: the filled format and a
line break. -/
def Handler.write (h : Handler) (time source : String) (e : Entry) : Option Write :=
  if h.kind = .discard then none
  else (e.render source time h.format).map fun line => ⟨h.sink, line ++ "\n"⟩

def lastResortThreshold : Int := 30

/-- What an entry logged at a name writes. -/
def Loggers.emit (ls : Loggers) (time : String) (name : String) (e : Entry) : List Write :=
  let chain := ls.chain name
  if e.level.number ≤ 0 || e.level.number < effectiveThreshold chain then [] else
  match handlersMet chain with
  | [] => if lastResortThreshold ≤ e.level.number then [⟨.stderr, e.message ++ "\n"⟩] else []
  | hs => hs.filterMap fun h =>
    if h.threshold ≤ e.level.number then h.write time (if isRootName name then rootName else name) e
    else none

structure Output where
  stdout : String := ""
  stderr : String := ""
  files : List (String × String) := []
  dirs : List String := []

namespace Output

def appendFile (o : Output) (path text : String) : Output :=
  match o.files.lookup path with
  | some old =>
    { o with files := o.files.map fun (p, t) => if p = path then (p, old ++ text) else (p, t) }
  | none => { o with files := o.files ++ [(path, text)] }

def putFile (o : Output) (path text : String) : Output :=
  match o.files.lookup path with
  | some _ => { o with files := o.files.map fun (p, t) => if p = path then (p, text) else (p, t) }
  | none => { o with files := o.files ++ [(path, text)] }

def write (o : Output) (w : Write) : Output :=
  match w.sink with
  | .stdout => { o with stdout := o.stdout ++ w.text }
  | .stderr => { o with stderr := o.stderr ++ w.text }
  | .file p => o.appendFile p w.text

end Output

structure LogState where
  loggers : Loggers
  out : Output := {}
  time : String

def LogState.log (st : LogState) (name : String) (e : Entry) : LogState :=
  let loggers := st.loggers.obtain name
  { st with loggers, out := (loggers.emit st.time name e).foldl Output.write st.out }

def LogState.logAll (st : LogState) (name : String) (es : List Entry) : LogState :=
  es.foldl (fun s e => s.log name e) st

end RevenueOffice.Log
