import HostHome.Provision.Steps

/-!
# Provisioning

Make the per-host home of a run ready. A home that is itself per-host is refused,
and nothing is done where the per-host home is the shared home.
-/

namespace HostHome.Provision

structure Outcome where
  /-- The home to use on this host. -/
  home : Path
  /-- Scripts were written, and nobody waits for the path of the home. -/
  scriptsWritten : Bool
  deriving DecidableEq, Repr

/-- The shared home is itself a per-host home, and the run is no update. -/
def isNested (context : Context) (files : FileSystem) : Bool :=
  !context.update && files.hasEntry context.layout.nestedMarker

/-- Make the per-host home ready. The first step that fails ends the run. -/
def provision (context : Context) : Run Outcome := do
  let layout := context.layout
  if isNested context (← Run.files) then Run.fail (.nested layout.nestedMarker)
  else if isPassThrough (← Run.files) layout then
    Run.debug (layout.hostHome.display ++ " is already the per-host home, nothing to do")
    return ⟨layout.hostHome, false⟩
  else
    executeAll context steps
    return ⟨layout.hostHome, context.script⟩

end HostHome.Provision
