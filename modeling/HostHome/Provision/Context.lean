import HostHome.Config.HostGroup
import HostHome.Config.Layout
import HostHome.Path.Normal
import HostHome.Run

/-!
# Contexts of runs

A run begins with what the command line and the environment say. The host-group
file then gives the name of the per-host home, and with it all paths of the run.
-/

namespace HostHome

open HostHome.Config
open HostHome.Execution (HomeSource)

/-- Read a configuration file. A file that is missing says nothing. -/
def FileSystem.readConfig (files : FileSystem) (file : Path) : Except Cause FileText :=
  match files.readFile file with
  | .ok bytes => .ok (.ofBytes file bytes)
  | .error error => if error = .absent then .ok {} else .error (.unreadableConfig file error)

/-- Find the identity of a host in a host-group file. Without a file no rule applies. -/
def FileSystem.resolveIdentity (files : FileSystem) (language : PatternLanguage)
    (shortName : String) (file : Path) : Except Cause Resolution := do
  let text ← files.readConfig file
  return text.resolveIdentity language shortName file

namespace Provision

/-- What the command line and the environment say about a run. -/
structure Invocation where
  /-- The shared home. -/
  home : Path
  homeSource : HomeSource := .homeVariable
  /-- The name of this machine, perhaps with its domain. -/
  hostName : String
  update : Bool := false
  script : Bool := false
  /-- The name under which the program was called. -/
  entryPoint : Path
  sync : SyncTool
  systemSkeleton : Path := systemSkeletonPath

/-- What the steps of a run need to know. -/
structure Context where
  layout : Layout
  identity : HostIdentity
  /-- Bring skeletons and transfers again into a per-host home that is ready. -/
  update : Bool
  /-- Write the scripts for login shells. -/
  script : Bool
  entryPoint : Path
  sync : SyncTool

namespace Context

/-- An update keeps newer files. -/
def copyMode (context : Context) : CopyMode := .forUpdate context.update

def isMarked (context : Context) (files : FileSystem) : Bool :=
  files.hasEntry context.layout.marker

/-- The run brings skeletons and transfers into the per-host home. -/
def wantsInjection (context : Context) (files : FileSystem) : Bool :=
  context.update || !context.isMarked files

end Context

/-- The per-host home is the shared home. Where both exist the directories are compared, and
otherwise the normal forms of their paths. -/
def isPassThrough (files : FileSystem) (layout : Layout) : Bool :=
  match files.canonical layout.hostHome, files.canonical layout.sharedHome with
  | .ok hostHome, .ok sharedHome => hostHome.sameAs sharedHome
  | _, _ => layout.hostHome.normalized = layout.sharedHome.normalized

def warnAll : List Diagnostic → Run Unit
  | [] => pure ()
  | diagnostic :: rest => do
      Run.warn diagnostic.display
      warnAll rest

/-- Find the identity of the host, with warnings about its host-group file. -/
def identify (language : PatternLanguage) (invocation : Invocation) : Run HostIdentity := do
  let shortName := shortHostName invocation.hostName
  let file := hostGroupFileOf invocation.home
  let resolution ← Run.within ("resolving host group for " ++ shortName)
    (Run.ofExcept ((← Run.files).resolveIdentity language shortName file))
  warnAll resolution.diagnostics
  return resolution.identity

def setup (language : PatternLanguage) (invocation : Invocation) : Run Context := do
  Run.debug ("home " ++ invocation.home.display ++ " (from " ++ invocation.homeSource.name
    ++ "), node " ++ invocation.hostName)
  let identity ← identify language invocation
  if identity.matched then
    Run.debug ("host group: " ++ identity.shortName ++ " -> " ++ identity.homeName)
  match homeNameFault? identity.homeName with
  | some fault =>
      Run.fail (.invalidHomeName identity.homeName invocation.hostName fault.message)
  | none =>
      return {
        layout := .of invocation.home identity.homeName invocation.systemSkeleton
        identity
        update := invocation.update
        script := invocation.script
        entryPoint := invocation.entryPoint
        sync := invocation.sync }

end Provision

end HostHome
