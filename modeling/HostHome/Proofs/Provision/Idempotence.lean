import HostHome.Proofs.Provision.Provisioning
import HostHome.Proofs.Provision.Settled

/-!
# Provisioning twice

A per-host home that was made ready is made ready again without a change: on
settled files every step is idle.
-/

namespace HostHome.Provision

open HostHome.Config

variable {context : Context} {files : FileSystem}

theorem ensureHomeTree_idle (isDirectory : files.isDirectory context.layout.hostHome) :
    ensureHomeTree.Idle context files := by
  apply Task.idle_of_run rfl
  rintro world rfl
  simp [ensureHomeTree, isDirectory, alreadyExists, Except.isOk, Except.toBool]

theorem ensureTopLink_idle (has : files.hasEntry context.layout.topLink) :
    ensureTopLink.Idle context files := by
  apply Task.idle_of_run rfl
  rintro world rfl
  have present : (topLink context.layout).state world.files ≠ .missing := by
    rw [Ne, Link.state_eq_missing_iff]
    simp [topLink, has]
  simp only [ensureTopLink, Run.ends_bind, Run.ends_files, Run.ends_ofExcept, Link.ensure]
  cases state : (topLink context.layout).state world.files with
  | missing => exact absurd state present
  | correct => simp [Except.isOk, Except.toBool]
  | occupied occupant => simp [Run.warn, Except.isOk, Except.toBool, Except.map]

theorem ensureSkeleton_idle (settled : files.isDirectory context.layout.skeleton ∨
      files.ensureTree context.layout.skeleton = (files, .ok ())) :
    ensureSkeleton.Idle context files := by
  apply Task.idle_of_run rfl
  rintro world rfl
  simp only [ensureSkeleton, Run.ends_bind, Run.ends_files]
  split
  · simp [alreadyExists, Except.isOk, Except.toBool]
  · next other =>
      have again := settled.resolve_left other
      simp [Run.ends_changeStepwise, again, Except.isOk, Except.toBool, Except.map]

theorem ensureTransferFile_idle (has : files.hasEntry context.layout.transferFile) :
    ensureTransferFile.Idle context files := by
  apply Task.idle_of_run rfl
  rintro world rfl
  simp [ensureTransferFile, has, alreadyExists, Except.isOk, Except.toBool]

theorem ensureMarker_idle (has : files.hasEntry context.layout.marker) :
    ensureMarker.Idle context files := by
  apply Task.idle_of_run rfl
  rintro world rfl
  simp [ensureMarker, Context.isMarked, has, Except.isOk, Except.toBool]

/-- On settled files all steps up to the scripts are idle, unless there is an update. -/
theorem Settled.idle (proper : Proper context.layout) (settled : Settled context files)
    (noUpdate : context.update = false) : ∀ task ∈ steps.dropLast, task.Idle context files := by
  have uninjected : context.wantsInjection files = false := by
    simp [Context.wantsInjection, Context.isMarked, noUpdate, settled.marker]
  intro task member
  simp only [steps, List.dropLast_cons_cons, List.dropLast_singleton, List.mem_cons,
    List.not_mem_nil, or_false] at member
  rcases member with rfl | rfl | rfl | rfl | rfl | rfl | rfl
  · exact ensureHomeTree_idle (settled.isDirectory_hostHome proper)
  · exact ensureTopLink_idle settled.topLink
  · exact ensureSkeleton_idle settled.skeleton
  · exact ensureTransferFile_idle settled.transferFile
  · exact Task.idle_of_not_applies uninjected
  · exact Task.idle_of_not_applies uninjected
  · exact ensureMarker_idle settled.marker

theorem Settled.idle_steps (proper : Proper context.layout) (settled : Settled context files)
    (noUpdate : context.update = false) (noScript : context.script = false) :
    ∀ task ∈ steps, task.Idle context files := by
  intro task member
  have parts : steps = steps.dropLast ++ [writeScripts] := rfl
  rw [parts, List.mem_append, List.mem_singleton] at member
  rcases member with member | rfl
  · exact settled.idle proper noUpdate task member
  · exact Task.idle_of_not_applies noScript

/-- All steps succeed if the files are settled as soon as the tree of the per-host home is there. -/
theorem executeAll_of_settled (proper : Proper context.layout) (noUpdate : context.update = false)
    (noScript : context.script = false) {world : World}
    (absent : world.files.isDirectory context.layout.hostHome = false)
    (made : world.files.ensureTree context.layout.hostHome = (files, .ok ()))
    (settled : Settled context files) :
    ∃ after, executeAll context steps world = .ok () after ∧ after.files = files := by
  obtain ⟨withHome, home, left⟩ := ensureHomeTree_eq_ok absent made
  have idle : ∀ task ∈ steps.tail, task.Idle context withHome.files := by
    intro task member
    rw [left]
    exact settled.idle_steps proper noUpdate noScript task (List.mem_of_mem_tail member)
  obtain ⟨after, rest, quiet⟩ := (executeAll_idle withHome idle).exists_ok
  exact ⟨after, (executeAll_cons_of_ok home).trans rest, quiet.files.trans left⟩

/-- Provisioning is idempotent: after a run that succeeded and did not mark the shared home itself,
the same run comes to the same outcome again, without a command, without a failed task and without
any change of the files. -/
theorem provision_idempotent (prepared : context.Prepared)
    (keeps : context.sync.executor.KeepsFiles) (noUpdate : context.update = false)
    (noScript : context.script = false) {world later again : World} {outcome : Outcome}
    (provisioned : provision context world = .ok outcome later)
    (unmarked : later.files.hasEntry context.layout.nestedMarker = false)
    (same : again.files = later.files) :
    ∃ after, provision context again = .ok outcome after ∧ Quiet again after := by
  have single : isNested context again.files = false := by simp [isNested, same, unmarked]
  obtain ⟨_, ⟨passes, rfl, unchanged⟩ | ⟨_, rfl, executed⟩⟩ := provision_eq_ok provisioned
  · exact provision_of_isPassThrough single (by rw [same, unchanged]; exact passes)
  · rw [noScript]
    cases passes : isPassThrough again.files context.layout with
    | true => exact provision_of_isPassThrough single passes
    | false =>
        have settled := settled_of_executeAll prepared.proper keeps executed
        rw [← same] at settled
        have idle := executeAll_idle again (settled.idle_steps prepared.proper noUpdate noScript)
        obtain ⟨after, ended, quiet⟩ := idle.exists_ok
        have provisioned := provision_of_ok single passes ended
        rw [noScript] at provisioned
        exact ⟨after, provisioned, quiet⟩

theorem provision_idempotent_in_empty_home :
    ∃ outcome later after, provision homeContext { files := homeFiles } = .ok outcome later ∧
      later.files.hasEntry homeContext.layout.nestedMarker = false ∧
      provision homeContext later = .ok outcome after ∧ Quiet later after := by
  obtain ⟨outcome, later, provisioned, unmarked⟩ := exists_provision_homeContext
  obtain ⟨after, again, quiet⟩ := provision_idempotent prepared_homeContext keepsFiles_homeContext
    rfl rfl provisioned unmarked rfl
  exact ⟨outcome, later, after, provisioned, unmarked, again, quiet⟩

end HostHome.Provision
