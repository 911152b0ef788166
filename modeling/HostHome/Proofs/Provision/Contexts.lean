import Mathlib
import HostHome.FileSystem.Change
import HostHome.Provision.Context
import HostHome.Proofs.Path.Joining
import HostHome.Proofs.Run

/-!
# Contexts that the setup gives

A context comes from the setup of a run.  Its paths follow from one path and one
name, and the name is that of a directory.
-/

namespace HostHome.Provision

open HostHome.Config

/-- The context is one that the setup gives, for some invocation in some world. -/
def Context.Prepared (context : Context) : Prop :=
  ∃ language invocation world ready, setup language invocation world = .ok context ready

theorem ordinaryName_perHostDirectoryName : OrdinaryName (Text.encode perHostDirectoryName) := by
  decide

theorem ordinaryName_topLinkName : OrdinaryName (Text.encode topLinkName) := by decide

theorem ordinaryName_configDirectoryName : OrdinaryName (Text.encode configDirectoryName) := by
  decide

theorem ordinaryName_skeletonName : OrdinaryName (Text.encode skeletonName) := by decide

theorem ordinaryName_transferFileName : OrdinaryName (Text.encode transferFileName) := by decide

theorem ordinaryName_markerName : OrdinaryName (Text.encode markerName) := by decide

theorem ordinaryName_shellScriptName : OrdinaryName (Text.encode shellScriptName) := by decide

theorem ordinaryName_cShellScriptName : OrdinaryName (Text.encode cShellScriptName) := by decide

/-- The paths of a prepared context are those of a shared home and of an accepted name. -/
theorem Context.Prepared.exists_layout {context : Context} (prepared : context.Prepared) :
    ∃ home name systemSkeleton, homeNameFault? name = none ∧
      context.layout = .of home name systemSkeleton := by
  obtain ⟨language, invocation, world, ready, given⟩ := prepared
  have ends : (setup language invocation).Ends world fun result _ =>
      ∀ context, result = .ok context → ∃ home name systemSkeleton,
        homeNameFault? name = none ∧ context.layout = .of home name systemSkeleton := by
    simp only [setup, Run.debug, Run.ends_bind, Run.ends_report]
    apply Run.ends_of_forall
    intro result after
    cases result with
    | error stop =>
        intro context given
        cases given
    | ok identity =>
        dsimp only
        cases named : homeNameFault? identity.homeName with
        | some fault => split <;> simp [Run.ends_fail]
        | none =>
            have spelled : ∃ home name, homeNameFault? name = none ∧ ∃ systemSkeleton,
                Layout.of invocation.home identity.homeName invocation.systemSkeleton =
                  .of home name systemSkeleton :=
              ⟨_, _, named, _, rfl⟩
            split <;> simpa [Run.ends_map, Except.map] using spelled
  exact ends.of_ok given context rfl

/-- The paths of a layout go on from each other by names. -/
structure Proper (layout : Layout) : Prop where
  hostHome : ∃ name, OrdinaryName name ∧ layout.hostHome =
    (layout.sharedHome.join ⟨Text.encode perHostDirectoryName⟩).join ⟨name⟩
  topLink : layout.topLink = layout.hostHome.join ⟨Text.encode topLinkName⟩
  configDirectory : layout.configDirectory =
    layout.sharedHome.join ⟨Text.encode configDirectoryName⟩
  skeleton : layout.skeleton = layout.configDirectory.join ⟨Text.encode skeletonName⟩
  transferFile : layout.transferFile = layout.configDirectory.join ⟨Text.encode transferFileName⟩
  shellScript : layout.shellScript = layout.configDirectory.join ⟨Text.encode shellScriptName⟩
  cShellScript : layout.cShellScript = layout.configDirectory.join ⟨Text.encode cShellScriptName⟩
  marker : layout.marker = layout.hostHome.join ⟨Text.encode markerName⟩
  nestedMarker : layout.nestedMarker = layout.sharedHome.join ⟨Text.encode markerName⟩

theorem Context.Prepared.proper {context : Context} (prepared : context.Prepared) :
    Proper context.layout := by
  obtain ⟨home, name, systemSkeleton, accepted, layout⟩ := prepared.exists_layout
  rw [layout]
  exact ⟨⟨_, ordinaryName_of_homeNameFault? accepted, rfl⟩, rfl, rfl, rfl, rfl, rfl, rfl, rfl, rfl⟩

theorem Proper.bytes_hostHome_ne_nil {layout : Layout} (proper : Proper layout) :
    layout.hostHome.bytes ≠ [] := by
  obtain ⟨name, ordinary, hostHome⟩ := proper.hostHome
  rw [hostHome]
  exact Path.bytes_joinName_ne_nil ordinary _

theorem Proper.bytes_configDirectory_ne_nil {layout : Layout} (proper : Proper layout) :
    layout.configDirectory.bytes ≠ [] := by
  rw [proper.configDirectory]
  exact Path.bytes_joinName_ne_nil ordinaryName_configDirectoryName _

theorem Proper.endsWithSlash_hostHome {layout : Layout} (proper : Proper layout) :
    layout.hostHome.endsWithSlash = false := by
  obtain ⟨name, ordinary, hostHome⟩ := proper.hostHome
  rw [hostHome]
  exact Path.endsWithSlash_joinName ordinary _

theorem Proper.endsWithSlash_topLink {layout : Layout} (proper : Proper layout) :
    layout.topLink.endsWithSlash = false := by
  rw [proper.topLink]
  exact Path.endsWithSlash_joinName ordinaryName_topLinkName _

theorem resolveIdentity_of_absent {language : PatternLanguage} {files : FileSystem}
    {file : Path}
    (absent : files.readFile file = .error .absent) (shortName : String) :
    files.resolveIdentity language shortName file = .ok ⟨.unmatched shortName, []⟩ := by
  have nothing : meaningfulLines .indented "" = [] := by decide
  simp [FileSystem.resolveIdentity, FileSystem.readConfig, absent, bind, Except.bind, pure,
    Except.pure, FileText.resolveIdentity, Config.resolveIdentity, nothing, resolveLines]

/-- The context of a host to which no host-group file gives another name. -/
def plainContext (invocation : Invocation) : Context where
  layout := .of invocation.home (shortHostName invocation.hostName) invocation.systemSkeleton
  identity := .unmatched (shortHostName invocation.hostName)
  update := invocation.update
  script := invocation.script
  entryPoint := invocation.entryPoint
  sync := invocation.sync

/-- Without a host-group file, the host has its own name, and the setup gives a context if a
directory can have that name. -/
theorem prepared_plainContext {invocation : Invocation} {files : FileSystem}
    (absent : files.readFile (hostGroupFileOf invocation.home) = .error .absent)
    (accepted : homeNameFault? (shortHostName invocation.hostName) = none) :
    (plainContext invocation).Prepared := by
  have resolved : files.resolveIdentity regularExpressions
      (shortHostName invocation.hostName) (hostGroupFileOf invocation.home) =
        .ok ⟨.unmatched (shortHostName invocation.hostName), []⟩ :=
    resolveIdentity_of_absent absent _
  have ends : (setup regularExpressions invocation).Ends { files } fun result _ =>
      result = .ok (plainContext invocation) ∧ True := by
    simp [setup, identify, Run.debug, Run.within, resolved, Run.ends_ofExcept, warnAll,
      HostIdentity.unmatched, accepted, plainContext]
  obtain ⟨ready, given, _⟩ := ends.exists_ok
  exact ⟨_, _, _, _, given⟩

/-- The context of a plain run on the host `web01`, with a sync tool that does nothing. -/
def plainContextAt (home : Path) : Context :=
  plainContext {
    home
    hostName := "web01"
    entryPoint := .ofText "multihome"
    sync := ⟨.ofText syncProgramName, .answering []⟩ }

theorem prepared_plainContextAt {home : Path} {files : FileSystem}
    (absent : files.readFile (hostGroupFileOf home) = .error .absent) :
    (plainContextAt home).Prepared := by
  have accepted : homeNameFault? (shortHostName "web01") = none := by decide
  exact prepared_plainContext absent accepted

/-- Files with nothing but an empty directory `home`. -/
def homeFiles : FileSystem :=
  FileSystem.empty.add [] (Text.encode "home") (.directory directoryPermissions)

def configLocation : Location := [Text.encode configDirectoryName, Text.encode "home"]

def hostLocation : Location :=
  [Text.encode "web01", Text.encode perHostDirectoryName, Text.encode "home"]

def homeContext : Context := plainContextAt (.ofText "/home")

theorem prepared_homeContext : homeContext.Prepared := by
  have absent : homeFiles.readFile (hostGroupFileOf (.ofText "/home")) = .error .absent := by cbv
  exact prepared_plainContextAt absent

theorem keepsFiles_homeContext : homeContext.sync.executor.KeepsFiles :=
  Execution.Executor.answering_keepsFiles []

end HostHome.Provision
