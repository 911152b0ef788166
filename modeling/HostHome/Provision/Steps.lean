import HostHome.FileSystem.Tree
import HostHome.InitScript
import HostHome.Provision.Task
import HostHome.Provision.Transfers

/-!
# Steps of provisioning

The tasks that make a per-host home ready, in their order. The marker comes after
skeletons and transfers: a home that is marked has got them.
-/

namespace HostHome.Provision

open HostHome.Config

/-- What is said of a step whose directory or file is there. -/
def alreadyExists : TaskResult := .skipped "already exists"

def ensureHomeTree : Task where
  name := "Create per-host home"
  run context := do
    let path := context.layout.hostHome
    if (← Run.files).isDirectory path then return alreadyExists
    Run.changeStepwise (fun files => files.ensureTree path) (.createDirectory path)
    Run.info ("created " ++ path.display)
    return .done

/-- The link from the per-host home to the shared home. -/
def topLink (layout : Layout) : Link := ⟨.symbolic, layout.sharedHome, layout.topLink⟩

def ensureTopLink : Task where
  name := "Link topdir"
  run context := do
    let link := topLink context.layout
    match ← Run.ofExcept (link.ensure (← Run.files)) with
    | (.applied, files) =>
        Run.setFiles files
        Run.debug ("linked " ++ link.description)
        return .done
    | (.alreadyCorrect, _) => return .skipped "already linked"
    | (.skipped occupant, _) =>
        Run.warn (context.layout.topLink.display ++ ": " ++ skipReason occupant)
        return .skipped (skipReason occupant)

def ensureSkeleton : Task where
  name := "Create skeleton directory"
  run context := do
    let path := context.layout.skeleton
    if (← Run.files).isDirectory path then return alreadyExists
    Run.changeStepwise (fun files => files.ensureTree path) (.createDirectory path)
    return .done

/-- Create an empty transfer file, unless there is one. -/
def ensureTransferFile : Task where
  name := "Create transfer config"
  run context := do
    let path := context.layout.transferFile
    if (← Run.files).hasEntry path then return alreadyExists
    Run.change (fun files => files.touch path) (.createFile path)
    return .done

/-- Copy what is in a skeleton into the per-host home. Tell whether it was copied. -/
def injectSkeleton (context : Context) (skeleton : Path) : Run Bool := do
  if !(← Run.files).isDirectory skeleton then
    Run.debug ("no skeleton at " ++ skeleton.display ++ ", skipping")
    return false
  let source := contentsOf skeleton
  let destination := context.layout.hostHome
  Run.debug ("syncing " ++ source.display ++ " -> " ++ destination.display ++ " ("
    ++ context.copyMode.name ++ ")")
  match ← Run.copy context.sync source destination context.copyMode with
  | .error fault => Run.fail fault.cause
  | .ok output =>
      if output.succeeded then return true
      Run.warn (failureMessage source output)
      return false

/-- Copy the skeletons of the system and of the user into the per-host home. -/
def injectSkeletons : Task where
  name := "Inject skeletons"
  applies context files := context.wantsInjection files
  run context := do
    let systemCopied ← injectSkeleton context context.layout.systemSkeleton
    let userCopied ← injectSkeleton context context.layout.skeleton
    if systemCopied || userCopied then return .done else return .skipped "nothing copied"

def transferRoots (layout : Layout) : TransferRoots := ⟨layout.sharedHome, layout.hostHome⟩

def applyTransfers : Task where
  name := "Apply transfers"
  applies context files := context.wantsInjection files
  run context := do
    let layout := context.layout
    match ← applyTransferFile layout.transferFile (transferRoots layout) context.sync
        context.copyMode with
    | .error cause =>
        Run.warn cause.message
        return .skipped "transfer file unreadable"
    | .ok report => if report = {} then return .skipped "no directives" else return .done

def ensureMarker : Task where
  name := "Write marker"
  run context := do
    if context.isMarked (← Run.files) then return .skipped "already provisioned"
    let path := context.layout.marker
    Run.change (fun files => files.touch path) (.createFile path)
    return .done

def writeScript (path : Path) (text : String) : Run Unit := do
  Run.change (fun files => files.writeFile path (Text.encode text)) (.writeScript path)
  Run.info ("wrote " ++ path.display)

/-- Write the scripts for login shells. -/
def writeScripts : Task where
  name := "Generate init scripts"
  applies context _ := context.script
  run context := do
    match ← Run.findProgram? context.entryPoint with
    | none => Run.fail (.selfLookup context.entryPoint.display)
    | some program =>
        let stamp := (← get).now.stamp
        Run.debug ("program path: " ++ program.display)
        writeScript context.layout.shellScript (InitScript.forShell program stamp)
        writeScript context.layout.cShellScript (InitScript.forCShell program stamp)
        return .done

def steps : List Task :=
  [ensureHomeTree, ensureTopLink, ensureSkeleton, ensureTransferFile, injectSkeletons,
    applyTransfers, ensureMarker, writeScripts]

end HostHome.Provision
