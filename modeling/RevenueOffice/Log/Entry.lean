/-!
# Log entries

What a step of the program reports as it runs: a message at a level. A level is a number; the
five standard ones are 10, 20, 30, 40 and 50, from debug to critical. A handler with a threshold
writes the entries at or above it; a logger drops an entry below its effective threshold, and
every entry whose level is not positive.
-/

set_option autoImplicit false

namespace RevenueOffice.Log

structure Level where
  number : Int
  deriving DecidableEq, Repr

namespace Level

def debug : Level := ⟨10⟩

def info : Level := ⟨20⟩

def warning : Level := ⟨30⟩

def error : Level := ⟨40⟩

def critical : Level := ⟨50⟩

def name (l : Level) : String :=
  match l.number with
  | 0 => "NOTSET"
  | 10 => "DEBUG"
  | 20 => "INFO"
  | 30 => "WARNING"
  | 40 => "ERROR"
  | 50 => "CRITICAL"
  | n => "Level " ++ toString n

end Level

structure Entry where
  level : Level
  message : String

def debug (m : String) : Entry := ⟨.debug, m⟩

def info (m : String) : Entry := ⟨.info, m⟩

def warning (m : String) : Entry := ⟨.warning, m⟩

def error (m : String) : Entry := ⟨.error, m⟩

end RevenueOffice.Log
