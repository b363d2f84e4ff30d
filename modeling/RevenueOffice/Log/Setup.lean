import RevenueOffice.Files
import RevenueOffice.Log.Loggers

/-!
# Setting up the logging of a command

A command logs to its own logger and the library under its package logger. A plain console setup
gives the root a writer to standard output unless it has a handler; a progress-safe console setup
swaps the command's console streams for a progress-safe writer and gives the package a new one; a
file setup makes the log directory and gives both loggers exactly a log file and a console writer.
A section header is a rule of seventy `=`, the title, and the rule again.
-/

set_option autoImplicit false

namespace RevenueOffice.Log

structure Names where
  package : String
  settingsReader : String

def Names.headers (n : Names) : String := n.package ++ ".cli.logging"

def Names.loader (n : Names) : String := n.package ++ ".reference.loader"

def Names.resolver (n : Names) : String := n.package ++ ".resolution.resolver"

def Names.selection (n : Names) : String := n.package ++ ".resolution.selection"

/-- Loggers as a program finds them at start: the package logger, the settings reader's and the
package's module loggers, in the order they come into being; only the package logger has a
handler, one that discards everything. -/
def Names.initial (n : Names) : Loggers :=
  let ls := [n.package, n.settingsReader, n.loader, n.selection, n.resolver, n.headers].foldl
    Loggers.obtain {}
  ls.modify n.package fun l => { l with handlers := [{ kind := .discard, sink := .stderr }] }

def messageFormat : String := "%(message)s"

def fileFormat : String := "%(asctime)s - %(levelname)s - %(message)s"

/-- Give the root a writer and a threshold, unless it has a handler already. -/
def configureRoot (ls : Loggers) (threshold : Int) (format : String) (sink : Sink) : Loggers :=
  if ls.root.handlers.isEmpty then
    ls.set "root" { ls.root with threshold, handlers := [{ kind := .stream, sink, format }] }
  else ls

structure Setup where
  toFile : Bool := false
  logDir : String := "logs"
  progressSafe : Bool := true

def progressWriter (threshold : Int) : Handler :=
  { kind := .progressSafe, sink := .stderr, threshold, format := messageFormat }

def logFilePath (s : Setup) (command stamp : String) : String :=
  PathText.join s.logDir (command ++ "_" ++ stamp ++ ".log")

/-- Set up logging for a command among the files of its working directory; the result is the
new state and the name of the logger the command logs to, or why the log directory cannot be
made. `stamp` is the time written into the log file's name. -/
def configure (n : Names) (files : Files) (st : LogState) (command : String) (s : Setup)
    (stamp : String) : Except FileError (LogState × String) :=
  if !s.toFile then
    if !s.progressSafe then
      .ok ({ st with loggers := (configureRoot st.loggers 20 messageFormat .stdout).obtain command },
        command)
    else
      let ls := st.loggers.modify command fun l =>
        { l with threshold := 20
                 handlers := l.handlers.filter (·.kind != .stream) ++ [progressWriter 20]
                 propagate := false }
      let ls := ls.modify n.package fun l =>
        { l with handlers := l.handlers.filter (·.kind != .progressSafe) ++ [progressWriter 30] }
      .ok ({ st with loggers := ls }, command)
  else do
    let made ← (files.withDirectories st.out.dirs).makeDirectories s.logDir
    let path := logFilePath s command stamp
    let written := PathText.collapse path
    let file : Handler :=
      { kind := .file, sink := .file written, threshold := 10, format := fileFormat }
    let console : Handler :=
      if s.progressSafe then progressWriter 20
      else { kind := .stream, sink := .stderr, threshold := 20, format := messageFormat }
    let packageConsole : Handler := { console with threshold := 40 }
    let ls := st.loggers.modify command fun l =>
      { l with threshold := 10, handlers := [file, console], propagate := false }
    let ls := ls.modify n.package fun l =>
      { l with threshold := 10, handlers := [file, packageConsole], propagate := false }
    let out := { st.out with dirs := st.out.dirs ++ made }
    let st' := ({ st with loggers := ls, out := out.appendFile written "" } : LogState)
    pure (st'.log command (info ("Log file: " ++ path)), command)

def headerLines (title : String) : List Entry :=
  let rule := String.ofList (List.replicate 70 '=')
  [info rule, info title, info rule]

end RevenueOffice.Log
