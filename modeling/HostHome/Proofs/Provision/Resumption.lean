import HostHome.Proofs.Provision.Injection

/-!
# Resumption

A run may fail at any step, and then the per-host home is not complete.  Where the
shared home is a directory and the sync tool changes no files, nothing but the last
of the steps marks the home: it is marked only by a run that has completed both
skeletons and transfers.  So as long as no run has done that, both steps apply in the
next one.
-/

namespace HostHome.Provision

open HostHome.Config
open HostHome.FileSystem (Grows)
open Run (Made)

variable {context : Context} {layout : Layout} {files later : FileSystem} {world moment : World}

theorem grows_provision (proper : Proper context.layout)
    (keeps : context.sync.executor.KeepsFiles) (world : World) :
    Grows world.files ((provision context).worldAfter world).files := by
  rcases worldAfter_provision context world with ⟨single, apart⟩ | ⟨events, left⟩
  · rw [worldAfter_provision_of_executeAll single apart]
    exact (executeAll_steps_permits proper keeps world).worldAfter.grows
  · rw [left]
    exact .refl world.files

theorem applyTransfers_succeeds (context : Context) (world : World) :
    ∃ after, applyTransfers.execute context world = .ok () after := by
  have leaves : applyTransfers.Leaves context world.files fun done _ => done = true := by
    refine Task.leaves_of_run (fun _ begun _ => ?_) fun _ => rfl
    have ends : (applyTransfers.run context).Ends begun (Made (fun _ => False) _ begun) :=
      made_applyTransfers begun
    refine ends.imp ?_
    rintro (stop | _) after made
    · exact (made.stops stop rfl).elim
    · rfl
  obtain ⟨after, executed, _⟩ := leaves.exists_ok (by simp)
  exact ⟨after, executed⟩

/-- A home that is not marked at the start is not marked when the run comes to one of the two
steps. -/
theorem Reaches.unmarked (proper : Proper context.layout)
    (keeps : context.sync.executor.KeepsFiles)
    (isDirectory : world.files.isDirectory context.layout.sharedHome)
    (unmarked : context.isMarked world.files = false) {done : List Task} {task : Task}
    (member : task ∈ [injectSkeletons, applyTransfers])
    (reaches : Reaches context world done task moment) :
    context.isMarked moment.files = false := by
  obtain ⟨rest, ahead⟩ := reaches.ahead
  simp only [List.mem_cons, List.not_mem_nil, or_false] at member
  rcases member with rfl | rfl
  · obtain rfl := before_eq_of_steps ahead steps_eq_injectSkeletons
    rw [reaches.isMarked_eq proper isDirectory, unmarked]
  · obtain rfl := before_eq_of_steps ahead steps_eq_applyTransfers
    cases marked : context.isMarked moment.files with
    | false => rfl
    | true =>
        have copied := reaches.markedByInjection_iff.2 ⟨unmarked, marked⟩
        exact absurd copied (not_markedByInjection proper keeps isDirectory)

theorem applies_of_unmarked (unmarked : context.isMarked files = false) {task : Task}
    (member : task ∈ [injectSkeletons, applyTransfers]) : task.applies context files := by
  simp only [List.mem_cons, List.not_mem_nil, or_false] at member
  rcases member with rfl | rfl <;>
    simp [injectSkeletons, applyTransfers, Context.wantsInjection, unmarked]

/-- A run that marks a home has completed skeletons and transfers. -/
theorem completes_of_marked (proper : Proper context.layout)
    (keeps : context.sync.executor.KeepsFiles)
    (isDirectory : world.files.isDirectory context.layout.sharedHome)
    (unmarked : context.isMarked world.files = false)
    (marked : context.isMarked ((provision context).worldAfter world).files) :
    Completes context world injectSkeletons ∧ Completes context world applyTransfers := by
  rcases reaches_of_marked proper isDirectory unmarked marked with ⟨moment, reaches⟩ | ⟨copied, _⟩
  · obtain ⟨begun, before, injected⟩ := reaches.exists_begun
    have unmarkedBegun := before.unmarked proper keeps isDirectory unmarked (by simp)
    have unmarkedThen := reaches.unmarked proper keeps isDirectory unmarked (by simp)
    exact ⟨(before.completes_iff proper).2
        ⟨applies_of_unmarked unmarkedBegun (by simp), moment, injected⟩,
      (reaches.completes_iff proper).2
        ⟨applies_of_unmarked unmarkedThen (by simp), applyTransfers_succeeds context moment⟩⟩
  · exact absurd copied (not_markedByInjection proper keeps isDirectory)

/-- One of the runs with the same paths: its context, and the world in which it begins. -/
structure Trial (layout : Layout) where
  context : Context
  world : World
  prepared : context.Prepared
  samePaths : context.layout = layout
  keeps : context.sync.executor.KeepsFiles

def Trial.left (trial : Trial layout) : FileSystem :=
  ((provision trial.context).worldAfter trial.world).files

def Trial.CompletesBoth (trial : Trial layout) : Prop :=
  Completes trial.context trial.world injectSkeletons ∧
    Completes trial.context trial.world applyTransfers

/-- Runs one after the other: each begins with the files that the one before has left. -/
inductive Trials (layout : Layout) : FileSystem → List (Trial layout) → FileSystem → Prop
  | nil (files : FileSystem) : Trials layout files [] files
  | cons (trial : Trial layout) {rest : List (Trial layout)} {later : FileSystem}
      (behind : Trials layout trial.left rest later) :
      Trials layout trial.world.files (trial :: rest) later

theorem Trial.grows (trial : Trial layout) : Grows trial.world.files trial.left :=
  grows_provision trial.prepared.proper trial.keeps trial.world

theorem Trial.completesBoth_of_marked (trial : Trial layout)
    (isDirectory : trial.world.files.isDirectory layout.sharedHome)
    (unmarked : trial.world.files.hasEntry layout.marker = false)
    (marked : trial.left.hasEntry layout.marker) : trial.CompletesBoth := by
  obtain ⟨context, world, prepared, rfl, keeps⟩ := trial
  exact completes_of_marked prepared.proper keeps isDirectory unmarked marked

theorem Trials.grows {trials : List (Trial layout)} (sequence : Trials layout files trials later) :
    Grows files later := by
  induction sequence with
  | nil files => exact .refl files
  | cons trial behind ih => exact trial.grows.trans ih

theorem Trials.unmarked {trials : List (Trial layout)}
    (sequence : Trials layout files trials later)
    (isDirectory : files.isDirectory layout.sharedHome)
    (unmarked : files.hasEntry layout.marker = false)
    (incomplete : ∀ trial ∈ trials, ¬ trial.CompletesBoth) :
    later.hasEntry layout.marker = false := by
  induction sequence with
  | nil files => exact unmarked
  | cons trial behind ih =>
      refine ih (trial.grows.isDirectory isDirectory) ?_
        fun other member => incomplete other (by simp [member])
      cases marked : trial.left.hasEntry layout.marker with
      | false => rfl
      | true =>
          exact absurd (trial.completesBoth_of_marked isDirectory unmarked marked)
            (incomplete trial (by simp))

/-- Failed provisioning is always resumed: only a run that completed both skeletons and transfers
marks the home, and until then both steps apply in every run that comes to them. -/
theorem provisioning_is_resumed {trials : List (Trial layout)}
    (sequence : Trials layout files trials later)
    (isDirectory : files.isDirectory layout.sharedHome)
    (unmarked : files.hasEntry layout.marker = false) :
    (later.hasEntry layout.marker → ∃ trial ∈ trials, trial.CompletesBoth) ∧
    ((∀ trial ∈ trials, ¬ trial.CompletesBoth) →
      ∀ next : Trial layout, next.world.files = later →
        ∀ task ∈ [injectSkeletons, applyTransfers], ∀ done moment,
          Reaches next.context next.world done task moment →
            task.applies next.context moment.files ∧
              ¬ Records next.context next.world task .notApplicable) := by
  constructor
  · intro marked
    by_contra none
    have incomplete : ∀ trial ∈ trials, ¬ trial.CompletesBoth :=
      fun trial member both => none ⟨trial, member, both⟩
    cases marked.symm.trans (sequence.unmarked isDirectory unmarked incomplete)
  · rintro incomplete ⟨context, world, prepared, rfl, keeps⟩ rfl task member done moment reaches
    have unmarkedStart : context.isMarked world.files = false :=
      sequence.unmarked isDirectory unmarked incomplete
    have applies := applies_of_unmarked (reaches.unmarked prepared.proper keeps
      (sequence.grows.isDirectory isDirectory) unmarkedStart member) member
    refine ⟨applies, fun spared => ?_⟩
    rw [reaches.records_notApplicable_iff prepared.proper, applies] at spared
    cases spared

/-- Files with a home that is itself marked as a per-host home. -/
def markedHomeFiles : FileSystem :=
  homeFiles.add [Text.encode "home"] (Text.encode markerName) (.file 0 filePermissions [])

def updateContext : Context := plainContext {
  home := .ofText "/home"
  hostName := "web01"
  update := true
  entryPoint := .ofText "multihome"
  sync := ⟨.ofText syncProgramName, .answering []⟩ }

theorem prepared_updateContext : updateContext.Prepared := by
  have noHostGroups : markedHomeFiles.readFile (hostGroupFileOf (.ofText "/home")) =
      .error .absent := by cbv
  exact prepared_plainContext noHostGroups (by decide)

/-- A plain run is refused in a home that is itself marked, and an update behind it provisions. -/
theorem refused_run_resumed_by_update :
    markedHomeFiles.isDirectory homeContext.layout.sharedHome ∧
      markedHomeFiles.hasEntry homeContext.layout.marker = false ∧
      ∃ refused updated : Trial homeContext.layout, refused.context = homeContext ∧
        updated.context = updateContext ∧
        Trials homeContext.layout markedHomeFiles [refused, updated] updated.left ∧
        refused.left.hasEntry homeContext.layout.marker = false ∧
        updated.left.hasEntry homeContext.layout.marker ∧
        ∃ trial ∈ [refused, updated], trial.CompletesBoth := by
  have isDirectory : markedHomeFiles.isDirectory homeContext.layout.sharedHome := by cbv
  have unmarked : markedHomeFiles.hasEntry homeContext.layout.marker = false := by cbv
  have failed : ((provision homeContext).worldAfter { files := markedHomeFiles }).files.hasEntry
      homeContext.layout.marker = false := by cbv
  have marked : ((provision updateContext).worldAfter { files :=
      ((provision homeContext).worldAfter { files := markedHomeFiles }).files }).files.hasEntry
        homeContext.layout.marker := by cbv
  let refused : Trial homeContext.layout :=
    ⟨homeContext, { files := markedHomeFiles }, prepared_homeContext, rfl, keepsFiles_homeContext⟩
  let updated : Trial homeContext.layout :=
    ⟨updateContext, { files := refused.left }, prepared_updateContext, rfl,
      Execution.Executor.answering_keepsFiles []⟩
  have last : Trials homeContext.layout refused.left [updated] updated.left :=
    .cons updated (.nil _)
  have sequence : Trials homeContext.layout markedHomeFiles [refused, updated] updated.left :=
    .cons refused last
  exact ⟨isDirectory, unmarked, refused, updated, rfl, rfl, sequence, failed, marked,
    (provisioning_is_resumed sequence isDirectory unmarked).1 marked⟩

end HostHome.Provision
