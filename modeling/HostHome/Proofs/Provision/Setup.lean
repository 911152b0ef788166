import HostHome.Proofs.Provision.TransferReport

/-!
# What the setup of a run does

The setup of a run changes nothing.  It finds the identity of the host in the files as
they are, and the context it gives follows from this identity and from what the
command line and the environment say.
-/

namespace HostHome.Provision

open HostHome.Config

variable {language : PatternLanguage} {invocation : Invocation} {world after ready : World}
  {context : Context}

theorem within_eq_ok {α : Type} {told : String} {run : Run α} {value : α}
    (ended : Run.within told run world = .ok value after) : run world = .ok value after := by
  simp only [Run.within, tryCatch, tryCatchThe, MonadExceptOf.tryCatch, EStateM.tryCatch] at ended
  cases given : run world with
  | ok other middle =>
      rw [given] at ended
      exact ended
  | error stop middle =>
      rw [given] at ended
      cases stop <;> cases ended

theorem ofExcept_eq_ok {α : Type} {result : Except Cause α} {value : α}
    (ended : Run.ofExcept result world = .ok value after) :
    result = .ok value ∧ after = world := by
  cases result with
  | ok found =>
      cases ended
      exact ⟨rfl, rfl⟩
  | error cause => cases ended

def contextOf (invocation : Invocation) (identity : HostIdentity) : Context where
  layout := .of invocation.home identity.homeName invocation.systemSkeleton
  identity
  update := invocation.update
  script := invocation.script
  entryPoint := invocation.entryPoint
  sync := invocation.sync

/-- What the setup of a run comes to in some files: a context, unless the host-group file cannot be
read or no directory can have the name that was found. -/
def setupResult (language : PatternLanguage) (invocation : Invocation) (files : FileSystem) :
    Except Stop Context :=
  let shortName := shortHostName invocation.hostName
  match files.resolveIdentity language shortName (hostGroupFileOf invocation.home) with
  | .error cause => .error (.failure ⟨cause, ["resolving host group for " ++ shortName]⟩)
  | .ok resolution =>
      match homeNameFault? resolution.identity.homeName with
      | some fault =>
          .error (.failure ⟨.invalidHomeName resolution.identity.homeName invocation.hostName
            fault.message, []⟩)
      | none => .ok (contextOf invocation resolution.identity)

theorem identify_ends (invocation : Invocation) (world : World) :
    (identify language invocation).Ends world fun result after =>
      OnlyReports world after ∧
        match world.files.resolveIdentity language (shortHostName invocation.hostName)
          (hostGroupFileOf invocation.home) with
        | .error cause => result = .error (.failure ⟨cause,
            ["resolving host group for " ++ shortHostName invocation.hostName]⟩)
        | .ok resolution => result = .ok resolution.identity := by
  simp only [identify, Run.within, Run.ends_bind, Run.ends_files, Run.ends_tryCatch,
    Run.ends_ofExcept]
  cases resolved : world.files.resolveIdentity language (shortHostName invocation.hostName)
    (hostGroupFileOf invocation.home) with
  | error cause => exact ⟨.refl world, rfl⟩
  | ok resolution =>
      refine (reports_warnAll resolution.diagnostics world).imp ?_
      rintro _ after ⟨rfl, reported⟩
      exact ⟨reported, rfl⟩

/-- The setup comes to what the files give as they are, and only reports something. -/
theorem setup_ends (invocation : Invocation) (world : World) :
    (setup language invocation).Ends world fun result after =>
      OnlyReports world after ∧ result = setupResult language invocation world.files := by
  simp only [setup, Run.debug, Run.ends_bind, Run.ends_report]
  refine (identify_ends invocation _).imp ?_
  rintro result middle ⟨reported, identified⟩
  have started : OnlyReports world middle := .trans ⟨_, rfl⟩ reported
  cases resolved : world.files.resolveIdentity language (shortHostName invocation.hostName)
    (hostGroupFileOf invocation.home) with
  | error cause =>
      simp only [resolved] at identified
      subst identified
      exact ⟨started, by simp only [setupResult, resolved]⟩
  | ok resolution =>
      simp only [resolved] at identified
      subst identified
      simp only [setupResult, resolved]
      cases homeNameFault? resolution.identity.homeName with
      | some fault =>
          split
          · exact ⟨started.trans ⟨_, rfl⟩, rfl⟩
          · exact ⟨started, rfl⟩
      | none =>
          split
          · exact ⟨started.trans ⟨_, rfl⟩, rfl⟩
          · exact ⟨started, rfl⟩

theorem exists_setup_eq_ok_iff :
    (∃ ready, setup language invocation world = .ok context ready) ↔
      setupResult language invocation world.files = .ok context :=
  ((setup_ends invocation world).imp fun _ _ ended => ended.2).exists_ok_iff

theorem exists_setup_eq_error_iff {stop : Stop} :
    (∃ after, setup language invocation world = .error stop after) ↔
      setupResult language invocation world.files = .error stop :=
  ((setup_ends invocation world).imp fun _ _ ended => ended.2).exists_error_iff

theorem setupResult_eq_ok {files : FileSystem}
    (given : setupResult language invocation files = .ok context) :
    ∃ resolution, files.resolveIdentity language (shortHostName invocation.hostName)
        (hostGroupFileOf invocation.home) = .ok resolution ∧
      homeNameFault? resolution.identity.homeName = none ∧
      context = contextOf invocation resolution.identity := by
  unfold setupResult at given
  cases resolved : files.resolveIdentity language (shortHostName invocation.hostName)
    (hostGroupFileOf invocation.home) with
  | error cause => simp [resolved] at given
  | ok resolution =>
      simp only [resolved] at given
      split at given
      · cases given
      · next named =>
          cases given
          exact ⟨resolution, rfl, named, rfl⟩

/-- A setup that gives a context has found the identity of the host, whose home can have its name,
and has only reported something. -/
theorem setup_eq_ok (given : setup language invocation world = .ok context ready) :
    ∃ resolution, world.files.resolveIdentity language (shortHostName invocation.hostName)
        (hostGroupFileOf invocation.home) = .ok resolution ∧
      homeNameFault? resolution.identity.homeName = none ∧
      context = contextOf invocation resolution.identity ∧ OnlyReports world ready := by
  obtain ⟨reported, result⟩ := (setup_ends invocation world).of_ok given
  obtain ⟨resolution, resolved, named, same⟩ := setupResult_eq_ok result.symm
  exact ⟨resolution, resolved, named, same, reported⟩

theorem exists_setup (invocation : Invocation) (world : World) {resolution : Resolution}
    (resolved : world.files.resolveIdentity language (shortHostName invocation.hostName)
      (hostGroupFileOf invocation.home) = .ok resolution)
    (named : homeNameFault? resolution.identity.homeName = none) :
    ∃ ready, setup language invocation world =
      .ok (contextOf invocation resolution.identity) ready := by
  rw [exists_setup_eq_ok_iff]
  simp only [setupResult, resolved, named]

end HostHome.Provision
