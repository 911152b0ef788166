import HostHome.Provision.Transfers
import HostHome.Proofs.Config.Directive
import HostHome.Proofs.FileSystem.Writing
import HostHome.Proofs.Run

/-!
# What transfers write

A directive creates at most one link, in the per-host home, under the last name of
its path.  Copies are left to the sync tool.
-/

namespace HostHome.Provision

open HostHome.Config
open HostHome.FileSystem (Allowance)

/-- The directives of a transfer file, as far as it can be read. -/
def directivesOf (files : FileSystem) (file : Path) : List Directive :=
  match files.readConfig file with
  | .error _ => []
  | .ok text => (parseDirectives file text.content).1

theorem directivesOf_eq {files : FileSystem} {file : Path} {text : FileText}
    (read : files.readConfig file = .ok text) :
    directivesOf files file = (parseDirectives file text.content).1 := by
  simp only [directivesOf, read]

variable {allowance : Allowance} {roots : TransferRoots} {sync : SyncTool} {mode : CopyMode}
  {world : World}

theorem exists_fileName_of_ofLine {file : Path} {line : Line} {directive : Directive}
    (found : (Directive.ofLine file line).1 = some directive) :
    ∃ name, (Path.ofText directive.path).fileName? = some name := by
  have read := (ofLine_fst_eq_some_iff.1 found).1
  exact Option.ne_none_iff_exists'.1 (states_of_read read).1.named

theorem exists_fileName_of_mem {files : FileSystem} {file : Path} {directive : Directive}
    (listed : directive ∈ directivesOf files file) :
    ∃ name, (Path.ofText directive.path).fileName? = some name := by
  unfold directivesOf at listed
  split at listed
  · cases listed
  · obtain ⟨line, _, found⟩ := List.mem_filterMap.1 listed
    exact exists_fileName_of_ofLine found

theorem destinationOf?_eq {directive : Directive} {name : Text.Bytes}
    (named : (Path.ofText directive.path).fileName? = some name) :
    roots.destinationOf? directive = some (roots.destination.join ⟨name⟩) := by
  have joined : (roots.sourceOf directive).fileName? = some name :=
    Path.fileName?_join roots.source named
  simp only [TransferRoots.destinationOf?, joined, Option.map_some]

theorem applyLink_permits {link : Link} (open_ : link.destination.endsWithSlash = false)
    (creates : ∀ entry, allowance.creates link.destination entry) :
    (applyLink link).Ends world fun _ after => allowance.Permits world.files after.files := by
  simp only [applyLink, Run.debug, Run.ends_bind, Run.ends_report, Run.ends_files]
  have unchanged : allowance.Permits world.files world.files := .refl world.files
  cases ensured : link.ensure world.files with
  | error cause => exact unchanged
  | ok found =>
      obtain ⟨change, later⟩ := found
      cases change with
      | alreadyCorrect => exact unchanged
      | skipped occupant => exact unchanged
      | applied =>
          simp only [Run.ends_bind, Run.ends_setFiles, Run.ends_pure]
          rcases Link.ensure_eq_ok ensured with ⟨_, rfl⟩ | ⟨_, applied⟩
          · exact unchanged
          · obtain ⟨directory, name, entry, placed, vacant, rfl, _⟩ :=
              Link.placedAt_of_apply applied
            exact Allowance.permits_add placed vacant open_ (creates entry)

theorem applyCopy_keeps (keeps : sync.executor.KeepsFiles) (source destination : Path) :
    (applyCopy sync mode source destination).Ends world fun _ after =>
      after.files = world.files := by
  simp only [applyCopy, Run.debug, Run.ends_bind, Run.ends_report]
  refine Run.Ends.imp (Run.ends_copy keeps) ?_
  intro result after same
  cases result with
  | error stop => exact same
  | ok answer =>
      cases answer with
      | error fault => exact same
      | ok output =>
          dsimp only
          split <;> exact same

/-- A directive writes only under the last name of its path. -/
theorem applyDirective_permits (keeps : sync.executor.KeepsFiles) {directive : Directive}
    {name : Text.Bytes} (named : (Path.ofText directive.path).fileName? = some name)
    (creates : ∀ entry, allowance.creates (roots.destination.join ⟨name⟩) entry) :
    (applyDirective roots sync mode directive).Ends world fun _ after =>
      allowance.Permits world.files after.files := by
  have ordinary := Path.ordinaryName_of_fileName? named
  simp only [applyDirective, destinationOf?_eq named]
  split
  · refine (applyCopy_keeps keeps _ _).imp ?_
    intro _ after same
    rw [same]
    exact .refl world.files
  · exact applyLink_permits (Path.endsWithSlash_joinName ordinary _) creates

theorem ends_warnAll (diagnostics : List Diagnostic) :
    (warnAll diagnostics).Ends world fun result after =>
      result = .ok () ∧ after.files = world.files := by
  induction diagnostics generalizing world with
  | nil => exact ⟨rfl, rfl⟩
  | cons diagnostic rest ih =>
      simp only [warnAll, Run.warn, Run.ends_bind, Run.ends_report]
      exact ih

theorem countOutcome_keeps (file : Path) (directive : Directive) (outcome : DirectiveOutcome) :
    (countOutcome file directive outcome).Ends world fun _ after => after.files = world.files := by
  cases outcome <;> simp [countOutcome, Run.warn]

theorem applyLine_permits (keeps : sync.executor.KeepsFiles) {file : Path} {line : Line}
    (creates : ∀ directive, (Directive.ofLine file line).1 = some directive →
      ∀ name entry, (Path.ofText directive.path).fileName? = some name →
        allowance.creates (roots.destination.join ⟨name⟩) entry) :
    (applyLine file roots sync mode line).Ends world fun _ after =>
      allowance.Permits world.files after.files := by
  simp only [applyLine, Run.ends_bind]
  refine Run.Ends.imp (ends_warnAll _) ?_
  rintro _ warned ⟨rfl, same⟩
  dsimp only
  rw [← same]
  cases found : (Directive.ofLine file line).1 with
  | none => exact .refl warned.files
  | some directive =>
      obtain ⟨name, named⟩ := exists_fileName_of_ofLine found
      simp only [Run.ends_bind]
      refine Run.Ends.imp (applyDirective_permits keeps named
        fun entry => creates directive found name entry named) ?_
      intro result after permits
      cases result with
      | error stop => exact permits
      | ok outcome =>
          refine (countOutcome_keeps file directive outcome).imp ?_
          intro _ counted same
          rw [same]
          exact permits

theorem applyLines_permits (keeps : sync.executor.KeepsFiles) {file : Path} {lines : List Line}
    (creates : ∀ line ∈ lines, ∀ directive, (Directive.ofLine file line).1 = some directive →
      ∀ name entry, (Path.ofText directive.path).fileName? = some name →
        allowance.creates (roots.destination.join ⟨name⟩) entry) :
    (applyLines file roots sync mode lines).Ends world fun _ after =>
      allowance.Permits world.files after.files := by
  induction lines generalizing world with
  | nil => exact .refl world.files
  | cons line rest ih =>
      simp only [applyLines, Run.ends_bind]
      refine (applyLine_permits keeps (creates line (by simp))).imp ?_
      intro result middle first
      cases result with
      | error stop => exact first
      | ok report =>
          refine (ih fun other member => creates other (by simp [member])).imp ?_
          intro result after second
          cases result with
          | error stop => exact first.trans second
          | ok others => exact first.trans second

/-- A transfer file writes under the last names of its directives. -/
theorem applyTransferFile_permits (keeps : sync.executor.KeepsFiles) {file : Path}
    (creates : ∀ directive ∈ directivesOf world.files file, ∀ name entry,
      (Path.ofText directive.path).fileName? = some name →
        allowance.creates (roots.destination.join ⟨name⟩) entry) :
    (applyTransferFile file roots sync mode).Ends world fun _ after =>
      allowance.Permits world.files after.files := by
  simp only [applyTransferFile, Run.ends_bind, Run.ends_files]
  cases read : world.files.readConfig file with
  | error cause => exact .refl world.files
  | ok text =>
      simp only [applyText, Run.debug, Run.ends_bind]
      refine (ends_warnAll text.diagnostics).imp ?_
      rintro _ warned ⟨rfl, same⟩
      dsimp only
      rw [← same]
      have within : ∀ line ∈ directiveLines text.content, ∀ directive,
          (Directive.ofLine file line).1 = some directive → ∀ name entry,
            (Path.ofText directive.path).fileName? = some name →
              allowance.creates (roots.destination.join ⟨name⟩) entry := by
        intro line member directive found
        apply creates directive
        rw [directivesOf_eq read]
        exact List.mem_filterMap.2 ⟨line, member, found⟩
      refine (applyLines_permits keeps within).imp ?_
      · intro result after permits
        cases result with
        | error stop => exact permits
        | ok report => exact permits

end HostHome.Provision
