import HostHome.Program

/-!
# Rehearsals

Rehearse a run from the command line. The machine of a rehearsal is in memory: it
has the environment of the process, the name of the host, the configuration files
of the home and the sync tool, if that is installed. What the run prints is
printed, and nothing on disk changes.
-/

namespace HostHome.Rehearsal

open HostHome.Execution (Environment Executor)
open HostHome.Text (Bytes)

def variableNames : List String :=
  [Execution.oldHomeVariable, Execution.homeVariable, Execution.searchVariable,
    Provision.temporaryVariable, Log.cacheVariable]

/-- Put a file that can be run into its place, with the directories above it. -/
def withProgram (files : FileSystem) (path : Path) (content : Bytes) : FileSystem :=
  let files := ((path.parent?.map files.createAll).map Prod.fst).getD files
  let files := (files.writeFile path content).toOption.getD files
  match files.find path with
  | .ok (_, .file inode _ _) => files.setPermissions inode directoryPermissions
  | _ => files

/-- The files that decide what a run does in a home. -/
def configurationOf (home : Path) : List Path :=
  let layout := Config.Layout.of home "" Config.systemSkeletonPath
  [layout.hostGroupFile, layout.transferFile, layout.nestedMarker]

/-- The places where the sync tool may be. -/
def syncPrograms (environment : Environment) : List Path :=
  match environment.get? Execution.searchVariable with
  | some search =>
      (Execution.searchDirectories none search).map fun directory =>
        directory.joinText syncProgramName
  | none => []

/-- The machine of a rehearsal, with the files that were found on disk. -/
def machine (environment : Environment) (hostName : Except String String)
    (found : List (Path × Bytes)) : Machine where
  files := found.foldl (fun files item => withProgram files item.1 item.2) .empty
  environment
  hostName
  executor := .answering []

def readEnvironment : IO Environment :=
  variableNames.foldlM
    (fun environment name => do
      match ← IO.getEnv name with
      | some value => return environment.set name (Text.encode value)
      | none => return environment)
    {}

def readFile? (path : Path) : IO (Option Bytes) :=
  try
    return some (← IO.FS.readBinFile path.display).toList
  catch _ =>
    return none

/-- Read those of some files that can be read. -/
def readFiles (paths : List Path) : IO (List (Path × Bytes)) :=
  paths.filterMapM fun path => return (← readFile? path).map fun content => (path, content)

/-- The name of the host, as the system shows it. -/
def readHostName : IO (Except String String) := do
  match ← readFile? (.ofText "/proc/sys/kernel/hostname") with
  | some content => return .ok (Text.trim (Text.decodeLossy content))
  | none => return .error "no name is shown"

/-- Rehearse a run and print what it prints. -/
def rehearse (arguments : List String) : IO UInt32 := do
  let environment ← readEnvironment
  let home : Path := ⟨(environment.get? Execution.homeVariable).getD []⟩
  let found ← readFiles (configurationOf home ++ syncPrograms environment)
  let result := (machine environment (← readHostName) found).run Config.regularExpressions
    (Text.encode CommandLine.programName) (arguments.map Text.encode)
  (← IO.getStdout).putStr result.stdout
  (← IO.getStderr).putStr result.stderr
  return UInt32.ofNat result.code

end HostHome.Rehearsal

def main (arguments : List String) : IO UInt32 := HostHome.Rehearsal.rehearse arguments
