import HostHome.Provision.Provisioning
import HostHome.Proofs.Provision.Steps
import HostHome.Proofs.Provision.Transfers

/-!
# What provisioning writes

Provisioning destroys nothing.  Whether it succeeds, is refused or fails at some
step, every entry stays, and what is new lies at one of a few places: on the way
to the per-host home, in it, or in the configuration.  Only the scripts for login
shells are ever written over.
-/

namespace HostHome.Provision

open HostHome.Config
open HostHome.FileSystem (Allowance)

/-- The entries that provisioning may create, each with the path of its place. -/
inductive MayCreate (context : Context) (directives : List Directive) : Path → Entry → Prop
  | hostHome {path : Path} (upper : path.components <+: context.layout.hostHome.components) :
      MayCreate context directives path (.directory directoryPermissions)
  | topLink (inode : Nat) :
      MayCreate context directives context.layout.topLink
        (.symbolicLink inode context.layout.sharedHome)
  | skeleton {path : Path} (upper : path.components <+: context.layout.skeleton.components) :
      MayCreate context directives path (.directory directoryPermissions)
  | transferFile (inode : Nat) :
      MayCreate context directives context.layout.transferFile (.file inode filePermissions [])
  | transferred {directive : Directive} {name : Text.Bytes} (entry : Entry)
      (listed : directive ∈ directives)
      (named : (Path.ofText directive.path).fileName? = some name) :
      MayCreate context directives (context.layout.hostHome.join ⟨name⟩) entry
  | marker (inode : Nat) :
      MayCreate context directives context.layout.marker (.file inode filePermissions [])

/-- What provisioning may write: the entries that it may create, and with scripts also the files to
which the paths of the scripts lead. -/
def writeSet (context : Context) (directives : List Directive) : Allowance where
  creates := MayCreate context directives
  writes path :=
    context.script ∧ (path = context.layout.shellScript ∨ path = context.layout.cShellScript)

/-- The directives that the run reads when it comes to its transfers. -/
def directivesRead (context : Context) (world : World) : List Directive :=
  match executeAll context (steps.take 5) world with
  | .ok _ moment => directivesOf moment.files context.layout.transferFile
  | .error _ _ => []

variable {context : Context} {directives : List Directive} {files later : FileSystem} {done : Bool}

theorem TreeLeft.permits {path : Path} (named : path.endsWithSlash = false)
    (left : TreeLeft path files done later)
    (creates : ∀ upper : Path, upper.components <+: path.components →
      MayCreate context directives upper (.directory directoryPermissions)) :
    (writeSet context directives).Permits files later := by
  unfold TreeLeft at left
  split at left
  · rw [left.2]
    exact .refl files
  · rw [left.1]
    refine (FileSystem.permits_ensureTree files named).mono ?_ fun _ none => none.elim
    rintro upper _ ⟨begins, rfl⟩
    exact creates upper begins

theorem FileLeft.permits {base : Path} {name : Text.Bytes} (ordinary : OrdinaryName name)
    (left : FileLeft (base.join ⟨name⟩) files done later)
    (creates : ∀ inode, MayCreate context directives (base.join ⟨name⟩)
      (.file inode filePermissions [])) :
    (writeSet context directives).Permits files later := by
  unfold FileLeft at left
  split at left
  · rw [left.2]
    exact .refl files
  · next absent =>
      split at left
      · obtain ⟨directory, placed, vacant, rfl⟩ :=
          FileSystem.placedAt_of_touch ordinary (by simpa using absent) left
        exact Allowance.permits_add placed vacant (Path.endsWithSlash_joinName ordinary base)
          (creates _)
      · rw [left]
        exact .refl files

/-- The link that was made sure of was there, or is a new symbolic link to the shared home. -/
theorem permits_topLink {change : LinkChange}
    (open_ : context.layout.topLink.endsWithSlash = false)
    (ensured : (topLink context.layout).ensure files = .ok (change, later)) :
    (writeSet context directives).Permits files later := by
  rcases Link.ensure_eq_ok ensured with ⟨_, rfl⟩ | ⟨_, applied⟩
  · exact .refl later
  · obtain ⟨directory, name, entry, placed, vacant, rfl, symbolic, _⟩ :=
      Link.placedAt_of_apply applied
    rw [symbolic rfl]
    exact Allowance.permits_add placed vacant open_ (.topLink _)

theorem writeScript_permits {path : Path}
    (named : ∃ (base : Path) (name : Text.Bytes), OrdinaryName name ∧ path = base.join ⟨name⟩)
    {allowance : Allowance}
    (writes : allowance.writes path) (text : String) (world : World) :
    (writeScript path text).Ends world fun _ after =>
      allowance.Permits world.files after.files := by
  obtain ⟨base, name, ordinary, rfl⟩ := named
  simp only [writeScript, Run.info, Run.ends_bind, Run.ends_change]
  split
  · next later written => exact FileSystem.permits_writeFile ordinary writes written
  · exact .refl world.files

variable (proper : Proper context.layout)
include proper

theorem ensureHomeTree_permits (directives : List Directive) (files : FileSystem) :
    ensureHomeTree.Leaves context files fun _ later =>
      (writeSet context directives).Permits files later := by
  refine (ensureHomeTree_leaves context files).imp fun _ _ left => ?_
  exact left.permits proper.endsWithSlash_hostHome fun _ => .hostHome

theorem ensureTopLink_permits (directives : List Directive) (files : FileSystem) :
    ensureTopLink.Leaves context files fun _ later =>
      (writeSet context directives).Permits files later := by
  refine (ensureTopLink_leaves context files).imp ?_
  intro done later left
  split at left
  · obtain ⟨change, ensured⟩ := left
    exact permits_topLink proper.endsWithSlash_topLink ensured
  · rw [left]
    exact .refl files

theorem ensureSkeleton_permits (directives : List Directive) (files : FileSystem) :
    ensureSkeleton.Leaves context files fun _ later =>
      (writeSet context directives).Permits files later := by
  have named : context.layout.skeleton.endsWithSlash = false := by
    rw [proper.skeleton]
    exact Path.endsWithSlash_joinName ordinaryName_skeletonName _
  refine (ensureSkeleton_leaves context files).imp fun _ _ left => ?_
  exact left.permits named fun _ => .skeleton

theorem ensureTransferFile_permits (directives : List Directive) (files : FileSystem) :
    ensureTransferFile.Leaves context files fun _ later =>
      (writeSet context directives).Permits files later := by
  refine (ensureTransferFile_leaves context files).imp fun _ _ left => ?_
  have creates := @MayCreate.transferFile context directives
  rw [proper.transferFile] at left creates
  exact left.permits ordinaryName_transferFileName creates

theorem ensureMarker_permits (directives : List Directive) (files : FileSystem) :
    ensureMarker.Leaves context files fun _ later =>
      (writeSet context directives).Permits files later := by
  refine (ensureMarker_leaves context files).imp fun _ _ left => ?_
  have creates := @MayCreate.marker context directives
  rw [proper.marker] at left creates
  exact left.permits ordinaryName_markerName creates

theorem writeScripts_permits (directives : List Directive) (files : FileSystem) :
    writeScripts.Leaves context files fun _ later =>
      (writeSet context directives).Permits files later := by
  apply Task.leaves_of_run
  · rintro scripts world rfl
    have unchanged : (writeSet context directives).Permits world.files world.files :=
      .refl world.files
    have shell : (writeSet context directives).writes context.layout.shellScript :=
      ⟨scripts, .inl rfl⟩
    have cShell : (writeSet context directives).writes context.layout.cShellScript :=
      ⟨scripts, .inr rfl⟩
    simp only [writeScripts, Run.findProgram?, Run.debug, Run.ends_bind, Run.ends_get,
      Run.ends_pure]
    split
    · exact unchanged
    · simp only [Run.ends_bind, Run.ends_report, Run.ends_get]
      refine (writeScript_permits ⟨_, _, ordinaryName_shellScriptName, proper.shellScript⟩
        shell _ _).imp ?_
      intro result middle first
      cases result with
      | error stop => exact first
      | ok _ =>
          refine (writeScript_permits ⟨_, _, ordinaryName_cShellScriptName, proper.cShellScript⟩
            cShell _ _).imp ?_
          intro result after second
          cases result with
          | error stop => exact first.trans second
          | ok _ => exact first.trans second
  · intro _
    exact .refl files

omit proper in
theorem injectSkeletons_permits (keeps : context.sync.executor.KeepsFiles)
    (directives : List Directive) (files : FileSystem) :
    injectSkeletons.Leaves context files fun _ later =>
      (writeSet context directives).Permits files later := by
  refine (injectSkeletons_leaves keeps files).imp fun _ later same => ?_
  rw [same]
  exact .refl files

omit proper in
theorem applyTransfers_permits (keeps : context.sync.executor.KeepsFiles) (files : FileSystem) :
    applyTransfers.Leaves context files fun _ later =>
      (writeSet context (directivesOf files context.layout.transferFile)).Permits files later := by
  apply Task.leaves_of_run
  · rintro - world rfl
    have creates : ∀ directive ∈ directivesOf world.files context.layout.transferFile,
        ∀ name entry, (Path.ofText directive.path).fileName? = some name →
          (writeSet context (directivesOf world.files context.layout.transferFile)).creates
            ((transferRoots context.layout).destination.join ⟨name⟩) entry :=
      fun directive listed name entry named => .transferred entry listed named
    simp only [applyTransfers, Run.ends_bind]
    refine (applyTransferFile_permits keeps creates).imp ?_
    intro result after permits
    cases result with
    | error stop => exact permits
    | ok answer =>
        cases answer with
        | error cause => exact permits
        | ok report =>
            dsimp only
            split <;> exact permits
  · intro _
    exact .refl files

theorem executeAll_beforeTransfers_permits (keeps : context.sync.executor.KeepsFiles)
    (directives : List Directive) (world : World) :
    (executeAll context (steps.take 5)).Ends world fun _ after =>
      (writeSet context directives).Permits world.files after.files := by
  refine executeAll_ends .refl .trans ?_ world
  intro task member files
  simp only [steps, List.take_succ_cons, List.take_zero, List.mem_cons, List.not_mem_nil,
    or_false] at member
  rcases member with rfl | rfl | rfl | rfl | rfl
  · exact ensureHomeTree_permits proper directives files
  · exact ensureTopLink_permits proper directives files
  · exact ensureSkeleton_permits proper directives files
  · exact ensureTransferFile_permits proper directives files
  · exact injectSkeletons_permits keeps directives files

theorem executeAll_behindTransfers_permits (directives : List Directive) (world : World) :
    (executeAll context (steps.drop 6)).Ends world fun _ after =>
      (writeSet context directives).Permits world.files after.files := by
  refine executeAll_ends .refl .trans ?_ world
  intro task member files
  simp only [steps, List.drop_succ_cons, List.drop_zero, List.mem_cons, List.not_mem_nil,
    or_false] at member
  rcases member with rfl | rfl
  · exact ensureMarker_permits proper directives files
  · exact writeScripts_permits proper directives files

/-- All steps write only what the run may write, with the directives that it reads. -/
theorem executeAll_steps_permits (keeps : context.sync.executor.KeepsFiles) (world : World) :
    (executeAll context steps).Ends world fun _ after =>
      (writeSet context (directivesRead context world)).Permits world.files after.files := by
  have split : steps = steps.take 5 ++ applyTransfers :: steps.drop 6 := rfl
  have before (directives : List Directive) :=
    executeAll_beforeTransfers_permits proper keeps directives world
  have behind (directives : List Directive) (moment : World) :=
    executeAll_behindTransfers_permits proper directives moment
  rw [split, executeAll_append, executeAll_cons]
  simp only [Run.ends_bind]
  refine ((before (directivesRead context world)).and (Run.ends_self _ world)).imp ?_
  rintro (stop | _) moment ⟨first, reached⟩
  · exact first
  · have read : directivesRead context world =
        directivesOf moment.files context.layout.transferFile := by
      simp only at reached
      simp [directivesRead, reached]
    rw [read] at first ⊢
    refine (applyTransfers_permits keeps moment.files moment rfl).imp ?_
    intro result transferred second
    cases result with
    | error stop => exact first.trans second
    | ok _ => exact (behind _ transferred).imp fun _ _ third => (first.trans second).trans third

omit proper in
/-- Provisioning destroys nothing, and whatever the end of the run, it has written only what its
write set allows. -/
theorem provision_permits (prepared : context.Prepared)
    (keeps : context.sync.executor.KeepsFiles) (world : World) :
    (writeSet context (directivesRead context world)).Permits world.files
      ((provision context).worldAfter world).files := by
  have unchanged : (writeSet context (directivesRead context world)).Permits
      world.files world.files := .refl world.files
  refine (Run.ends_worldAfter fun after => (writeSet context
    (directivesRead context world)).Permits world.files after.files).1 ?_
  simp only [provision, Run.ends_bind, Run.ends_files]
  split
  · exact unchanged
  · simp only [Run.ends_bind, Run.ends_files]
    split
    · exact unchanged
    · simp only [Run.ends_bind]
      refine (executeAll_steps_permits prepared.proper keeps world).imp ?_
      intro result after permits
      cases result with
      | error stop => exact permits
      | ok _ => exact permits

omit proper in
theorem provision_permits_in_empty_home :
    homeContext.Prepared ∧ homeContext.sync.executor.KeepsFiles ∧
      (writeSet homeContext (directivesRead homeContext { files := homeFiles })).Permits homeFiles
        ((provision homeContext).worldAfter { files := homeFiles }).files :=
  ⟨prepared_homeContext, keepsFiles_homeContext,
    provision_permits prepared_homeContext keepsFiles_homeContext { files := homeFiles }⟩

end HostHome.Provision
