import HostHome.Text.Ansi

/-!
# Events of a run

Everything that a run reports is an event. Events are shown on the console, in
colours where it has them, and written to the log file, which shows all of them
with their times and no colours.
-/

namespace HostHome.Log

/-- How much an event matters, and which form it has. -/
inductive Level where
  | error
  | warning
  /-- The heading of a part of the run. -/
  | stage
  | info
  /-- Details, which the console shows only on demand. -/
  | debug
  deriving DecidableEq, Repr

/-- Something that a run reports. -/
structure Event where
  level : Level
  message : String
  deriving DecidableEq, Repr

def red : String := "\x1b[31m"

def green : String := "\x1b[32m"

def yellow : String := "\x1b[33m"

def dim : String := "\x1b[2m"

def bold : String := "\x1b[1m"

/-- The sequence that begins bold blue text, for the sign before a heading. -/
def boldBlue : String := "\x1b[1;34m"

/-- The sequence that ends all colours. -/
def plain : String := "\x1b[0m"

/-- The event in a log file, behind the time. -/
def Event.fileText (event : Event) : String :=
  let message := Text.stripAnsi event.message
  match event.level with
  | .stage => "==> " ++ message
  | .error => "    [error] " ++ message
  | .warning => "    [warn] " ++ message
  | .debug => "    [debug] " ++ message
  | .info => "    " ++ message

def Event.fileLine (time : String) (event : Event) : String :=
  "[" ++ time ++ "] " ++ event.fileText ++ "\n"

def Event.colouredText (event : Event) : String :=
  match event.level with
  | .error => red ++ "ERROR" ++ plain ++ " " ++ event.message
  | .warning => yellow ++ "WARN" ++ plain ++ "  " ++ event.message
  | .stage => boldBlue ++ "==>" ++ plain ++ " " ++ bold ++ event.message ++ plain
  | .info => "  " ++ event.message
  | .debug => "  " ++ dim ++ event.message ++ plain

def Event.consoleLine (coloured : Bool) (event : Event) : String :=
  (if coloured then event.colouredText else Text.stripAnsi event.colouredText) ++ "\n"

def Event.isShown (verbose : Bool) (event : Event) : Bool := verbose || event.level ≠ .debug

def consoleText (coloured verbose : Bool) (events : List Event) : String :=
  String.join ((events.filter (Event.isShown verbose)).map (Event.consoleLine coloured))

end HostHome.Log
