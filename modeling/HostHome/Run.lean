import HostHome.Calendar
import HostHome.Execution.Command
import HostHome.Execution.Lookup
import HostHome.Log.Record
import HostHome.Sync

/-!
# Runs

A run works on a world: the files and the surroundings of the program, the events
it has reported, the record of its tasks and the commands it has run. It ends with
a value or stops. When it stops, what it did before stays done.
-/

namespace HostHome

open HostHome.Execution (Environment Command Executor Answer)

/-- What a run works on. -/
structure World where
  files : FileSystem
  environment : Environment := {}
  /-- The time that the clock shows. -/
  now : Calendar.Moment := ⟨0, false, 0⟩
  processId : Nat := 1
  /-- The log file that the summary names. -/
  logFile : Option Path := none
  events : List Log.Event := []
  record : List Log.TaskEntry := []
  /-- The commands that were run, in order. -/
  calls : List Command := []

inductive Stop where
  /-- A failure, which is reported and decides the exit status. -/
  | failure (failure : Failure)
  /-- A copy without source or destination, which should never happen. -/
  | violation (violation : CopyViolation)
  deriving DecidableEq, Repr

abbrev Run (α : Type) := EStateM Stop World α

namespace Run

def fail {α : Type} (cause : Cause) : Run α := throw (.failure ⟨cause, []⟩)

/-- Go on with a result, or stop for the cause that there is none. -/
def ofExcept {α : Type} : Except Cause α → Run α
  | .ok value => pure value
  | .error cause => fail cause

def within {α : Type} (context : String) (run : Run α) : Run α :=
  tryCatch run fun
    | .failure failure => throw (.failure (failure.within context))
    | .violation violation => throw (.violation violation)

def files : Run FileSystem := return (← get).files

def setFiles (files : FileSystem) : Run Unit := modify fun world => { world with files }

def report (level : Log.Level) (message : String) : Run Unit :=
  modify fun world => { world with events := world.events ++ [⟨level, message⟩] }

def error (message : String) : Run Unit := report .error message

def warn (message : String) : Run Unit := report .warning message

def stage (message : String) : Run Unit := report .stage message

def info (message : String) : Run Unit := report .info message

def debug (message : String) : Run Unit := report .debug message

def record (name : String) (status : Log.TaskStatus) (message : Option String := none) : Run Unit :=
  modify fun world => { world with record := world.record ++ [⟨name, status, message⟩] }

def summarize : Run Unit :=
  modify fun world =>
    { world with events := world.events ++ Log.summary world.record world.logFile }

/-- Change the files, or stop for the cause that they cannot be changed. -/
def change (request : FileSystem → Except SystemError FileSystem) (cause : SystemError → Cause) :
    Run Unit := do
  match request (← files) with
  | .ok files => setFiles files
  | .error error => fail (cause error)

/-- Change the files step by step. What was changed before a failure stays changed. -/
def changeStepwise (request : FileSystem → FileSystem × Except SystemError Unit)
    (cause : SystemError → Cause) : Run Unit := do
  let (files, result) := request (← files)
  setFiles files
  match result with
  | .ok () => pure ()
  | .error error => fail (cause error)

/-- Run a command. Whoever asked for it deals with the answer. -/
def command (executor : Executor) (command : Command) : Run Answer := do
  let world ← get
  let (files, answer) := executor.run world.files world.calls command
  set { world with files, calls := world.calls ++ [command] }
  return answer

/-- Run a command, or stop because it could not be run. -/
def output (executor : Executor) (command : Command) : Run Execution.Output := do
  match ← Run.command executor command with
  | .ok output => pure output
  | .error fault => fail fault.cause

def copy (tool : SyncTool) (source destination : Path) (mode : CopyMode) : Run Answer := do
  match copyViolation? source destination with
  | some violation => throw (.violation violation)
  | none => command tool.executor (tool.copyCommand source destination mode)

def findProgram? (name : Path) : Run (Option Path) :=
  return (← get).environment.findProgram? (← get).files name

end Run

end HostHome
