import HostHome.CommandLine.Help
import HostHome.Log.File
import HostHome.Provision.Provisioning
import HostHome.Provision.SelfTest

/-!
# The program

Read the command line, do what it asks for, and tell how it went: by an exit
status, by the path of the home on standard output, and by events on the console
and in a log file.
-/

namespace HostHome

open HostHome.Config (PatternLanguage)
open HostHome.Execution (Environment Executor)
open HostHome.Text (Bytes)

/-- The machine on which the program runs. -/
structure Machine where
  files : FileSystem
  environment : Environment
  /-- The name of the machine, or why it cannot be read. -/
  hostName : Except String String
  /-- The home of the user, in the accounts of the machine. -/
  account : Option Path := none
  now : Calendar.Moment := ⟨0, false, 0⟩
  processId : Nat := 1
  executor : Executor
  /-- The console shows colours. -/
  coloured : Bool := false

structure ProgramResult where
  files : FileSystem
  code : Nat
  stdout : String := ""
  stderr : String := ""

namespace Provision

/-- Find the sync tool in the directories that the environment lists. -/
def locateSyncTool (executor : Executor) : Run SyncTool := do
  match ← Run.findProgram? (.ofText syncProgramName) with
  | some program => return ⟨program, executor⟩
  | none => Run.fail (.commandNotFound syncProgramName)

/-- Gather what the command line and the environment say about a run. -/
def detect (update script : Bool) (hostName : Except String String) (account : Option Path)
    (entryPoint : Path) (sync : SyncTool) : Run Invocation := do
  let (home, homeSource) ← Run.ofExcept
    (Execution.homeDirectory update (← get).environment account)
  match hostName with
  | .error reason => Run.fail (.hostNameUnavailable reason)
  | .ok hostName => return { home, homeSource, hostName, update, script, entryPoint, sync }

/-- Do what the command line asks for. What is to be printed is the path of the home. -/
def runOptions (language : PatternLanguage) (machine : Machine)
    (options : CommandLine.Options) (hostName : Except String String) (entryPoint : Path) :
    Run String := do
  let sync ← Run.within "multihome needs rsync" (locateSyncTool machine.executor)
  Run.debug ("sync tool: " ++ sync.program.display)
  match hostName with
  | .error reason => Run.fail (.hostNameUnavailable reason)
  | .ok name =>
      let invocation ← detect options.update options.script (.ok name) machine.account entryPoint
        sync
      let context ← setup language invocation
      if options.tests then
        selfTest language context
        return ""
      else
        let outcome ← provision context
        return if outcome.scriptsWritten then "" else outcome.home.display ++ "\n"

end Provision

namespace Machine

/-- The name of the host for a run: the one that the command line gives, or that of the machine. -/
def hostNameFor (machine : Machine) (options : CommandLine.Options) : Except String String :=
  match options.hostName with
  | some name => .ok name
  | none => machine.hostName

def logName (options : CommandLine.Options) (hostName : Except String String) : String :=
  let short := match hostName with
    | .ok name => Config.shortHostName name
    | .error _ => "unknown"
  options.commandName ++ "-" ++ short

/-- The exit status and the last report of a run that stopped. A violation is not the fault of the
user, and has a status of its own. -/
def reportStop : Stop → Nat × Log.Event
  | .failure failure => (failure.exitCode, ⟨.error, failure.fullMessage⟩)
  | .violation violation => (101, ⟨.error, violation.message⟩)

/-- Run with options, and write the log file if there is one. -/
def runOptions (language : PatternLanguage) (machine : Machine) (program : Bytes)
    (options : CommandLine.Options) : ProgramResult :=
  let hostName := machine.hostNameFor options
  let (files, logFile) :=
    Log.prepareLogFile machine.files machine.environment (logName options hostName)
  let opened := logFile.bind (Log.openLogFile files machine.now)
  let world : World :=
    { files := (opened.map Prod.fst).getD files
      environment := machine.environment
      now := machine.now
      processId := machine.processId
      logFile }
  let (code, stdout, events, world) :=
    match Provision.runOptions language machine options hostName ⟨program⟩ world with
    | .ok text world => (0, text, world.events, world)
    | .error stop world =>
        let (code, event) := reportStop stop
        (code, "", world.events ++ [event], world)
  { files := match opened with
      | some (_, inode) => Log.appendEvents world.files inode machine.now events
      | none => world.files
    code
    stdout
    stderr := Log.consoleText machine.coloured options.verbose events }

def run (language : PatternLanguage) (machine : Machine) (program : Bytes)
    (arguments : List Bytes) : ProgramResult :=
  match CommandLine.Options.ofArguments arguments with
  | .ok options => machine.runOptions language program options
  | .error interruption =>
      match interruption with
      | .fault fault =>
          { files := machine.files, code := 2, stderr := "error: " ++ fault.message ++ "\n" }
      | interruption =>
          { files := machine.files, code := 0
            stdout := (interruption.text? program).getD "" }

end Machine

end HostHome
