import HostHome.Proofs.Provision.Marker
import HostHome.Proofs.Provision.Record

/-!
# When skeletons and transfers apply

A per-host home that is not marked gets skeletons and transfers, and only then the
marker.  Whether they are wanted is decided for each of the two steps by the files
that it meets.  What is copied from the skeletons stands between the two decisions:
if it marks the home, the transfers are left out, and no later run makes up for
them.
-/

namespace HostHome.Provision

open HostHome.Config
open HostHome.Execution (Executor)

variable {context : Context} {world moment begun : World}

/-- The home is not marked at the start, and it is marked when the skeletons have been copied. -/
def MarkedByInjection (context : Context) (world : World) : Prop :=
  context.isMarked world.files = false ∧
    context.isMarked ((executeAll context (steps.take 5)).worldAfter world).files

theorem Reaches.exists_begun
    (reaches : Reaches context world (steps.take 5) applyTransfers moment) :
    ∃ begun, Reaches context world (steps.take 4) injectSkeletons begun ∧
      injectSkeletons.execute context begun = .ok () moment := by
  rw [take_steps_applyTransfers] at reaches
  exact reaches.before

theorem Reaches.markedByInjection_iff
    (reaches : Reaches context world (steps.take 5) applyTransfers moment) :
    MarkedByInjection context world ↔
      context.isMarked world.files = false ∧ context.isMarked moment.files := by
  simp only [MarkedByInjection, Run.worldAfter, reaches.executed]

theorem files_of_spared {task : Task} {after : World}
    (spared : task.applies context world.files = false)
    (executed : task.execute context world = .ok () after) : after.files = world.files :=
  ((Task.idle_of_not_applies spared world rfl).of_ok executed).2.files

theorem Executes.exists_reaches (proper : Proper context.layout)
    (executes : Executes context world applyTransfers) :
    ∃ moment, Reaches context world (steps.take 5) applyTransfers moment := by
  obtain ⟨_, _, records⟩ := executes
  obtain ⟨moment, _, reaches, _⟩ := records.exists_reaches proper steps_eq_applyTransfers
  exact ⟨moment, reaches⟩

/-- A run that marks a home has come to the transfers, or the copies from the skeletons marked it
and then failed. -/
theorem reaches_of_marked (proper : Proper context.layout)
    (isDirectory : world.files.isDirectory context.layout.sharedHome)
    (unmarked : context.isMarked world.files = false)
    (marked : context.isMarked ((provision context).worldAfter world).files) :
    (∃ moment, Reaches context world (steps.take 5) applyTransfers moment) ∨
      (MarkedByInjection context world ∧ Records context world injectSkeletons .failed) := by
  rcases worldAfter_provision context world with ⟨single, apart⟩ | ⟨events, left⟩
  · rw [worldAfter_provision_of_executeAll single apart] at marked
    by_cases begins : ∃ begun, executeAll context (steps.take 4) world = .ok () begun
    · obtain ⟨begun, executed⟩ := begins
      have reaches : Reaches context world (steps.take 4) injectSkeletons begun :=
        ⟨single, apart, ⟨_, rfl⟩, executed⟩
      by_cases goesOn : ∃ moment, executeAll context (steps.take 5) world = .ok () moment
      · obtain ⟨moment, executed⟩ := goesOn
        exact .inl ⟨moment, single, apart, ⟨_, rfl⟩, executed⟩
      · rw [← List.take_append_drop 5 steps, worldAfter_executeAll_append goesOn] at marked
        refine .inr ⟨⟨unmarked, marked⟩, (reaches.records_failed_iff proper).2 ?_⟩
        rintro ⟨moment, injected⟩
        refine goesOn ⟨moment, ?_⟩
        rw [take_steps_applyTransfers, executeAll_append_of_ok executed]
        exact executeAll_cons_of_ok injected
    · rw [← List.take_append_drop 4 steps, worldAfter_executeAll_append begins] at marked
      have before := (ends_before_skeletons proper world).worldAfter isDirectory
      rw [before.2 marked] at unmarked
      cases unmarked
  · rw [left] at marked
    cases marked.symm.trans unmarked

/-- The two steps are recorded as not applicable together, unless the copies mark the home in a run
that is no update. -/
theorem Reaches.spared_iff_spared (proper : Proper context.layout)
    (isDirectory : world.files.isDirectory context.layout.sharedHome)
    (reaches : Reaches context world (steps.take 5) applyTransfers moment) :
    (Records context world injectSkeletons .notApplicable ↔
        Records context world applyTransfers .notApplicable) ↔
      ¬ (context.update = false ∧ MarkedByInjection context world) := by
  obtain ⟨begun, before, injected⟩ := reaches.exists_begun
  have start := before.isMarked_eq proper isDirectory
  have applies : injectSkeletons.applies context begun.files =
      (context.update || !context.isMarked world.files) := by
    rw [← start]
    rfl
  have appliesLater : applyTransfers.applies context moment.files =
      (context.update || !context.isMarked moment.files) := rfl
  -- A sync tool may also remove a marker, but in a marked home it is called only in an update.
  have kept (spared : injectSkeletons.applies context begun.files = false) :
      context.isMarked moment.files = context.isMarked world.files := by
    rw [files_of_spared spared injected, start]
  rw [before.records_notApplicable_iff proper, reaches.records_notApplicable_iff proper,
    reaches.markedByInjection_iff]
  rw [applies] at kept ⊢
  rw [appliesLater]
  cases update : context.update <;> cases unmarked : context.isMarked world.files <;> simp_all

/-- A run that marks a home has executed the transfers, unless the copies marked it, and the run is
no update or failed behind them. -/
theorem executes_applyTransfers_iff (proper : Proper context.layout)
    (isDirectory : world.files.isDirectory context.layout.sharedHome)
    (unmarked : context.isMarked world.files = false)
    (marked : context.isMarked ((provision context).worldAfter world).files) :
    Executes context world applyTransfers ↔
      ¬ (MarkedByInjection context world ∧
        (context.update = false ∨ Records context world injectSkeletons .failed)) := by
  constructor
  · rintro executes ⟨byInjection, cause⟩
    obtain ⟨moment, reaches⟩ := executes.exists_reaches proper
    have applies := (reaches.executes_iff proper).1 executes
    have markedThen := (reaches.markedByInjection_iff.1 byInjection).2
    obtain ⟨begun, before, injected⟩ := reaches.exists_begun
    rcases cause with noUpdate | failed
    · simp [applyTransfers, Context.wantsInjection, noUpdate, markedThen] at applies
    · exact (before.records_failed_iff proper).1 failed ⟨moment, injected⟩
  · intro fine
    rcases reaches_of_marked proper isDirectory unmarked marked with ⟨moment, reaches⟩ | failed
    · rw [reaches.executes_iff proper]
      by_contra spared
      have decided : context.update = false ∧ context.isMarked moment.files := by
        simpa [applyTransfers, Context.wantsInjection] using spared
      exact fine ⟨reaches.markedByInjection_iff.2 ⟨unmarked, decided.2⟩, .inl decided.1⟩
    · exact absurd ⟨failed.1, .inr failed.2⟩ fine

/-- The steps of skeletons and of transfers are one decision, unless the copies from the skeletons
mark the home. -/
theorem injection_decides_transfers (prepared : context.Prepared)
    (isDirectory : world.files.isDirectory context.layout.sharedHome) :
    (∀ moment, Reaches context world (steps.take 5) applyTransfers moment →
      ((Records context world injectSkeletons .notApplicable ↔
          Records context world applyTransfers .notApplicable) ↔
        ¬ (context.update = false ∧ MarkedByInjection context world))) ∧
    (context.isMarked world.files = false →
      context.isMarked ((provision context).worldAfter world).files →
        (Executes context world applyTransfers ↔
          ¬ (MarkedByInjection context world ∧
            (context.update = false ∨ Records context world injectSkeletons .failed)))) :=
  ⟨fun _ reaches => reaches.spared_iff_spared prepared.proper isDirectory,
    executes_applyTransfers_iff prepared.proper isDirectory⟩

/-- If the sync tool changes no files, the copies do not mark the home. -/
theorem not_markedByInjection (proper : Proper context.layout)
    (keeps : context.sync.executor.KeepsFiles)
    (isDirectory : world.files.isDirectory context.layout.sharedHome) :
    ¬ MarkedByInjection context world := by
  rintro ⟨unmarked, marked⟩
  have ends : (executeAll context (steps.take 5)).Ends world fun _ after =>
      context.isMarked after.files → context.isMarked world.files := by
    rw [take_steps_applyTransfers, executeAll_append, Run.ends_bind]
    refine (ends_before_skeletons proper world).imp ?_
    rintro (stop | _) middle before
    · exact (before isDirectory).2
    · simp only [executeAll, Run.ends_bind, Run.ends_pure]
      refine (injectSkeletons_leaves keeps middle.files middle rfl).imp ?_
      rintro (stop | _) after same
      all_goals
        rw [same]
        exact (before isDirectory).2
  rw [ends.worldAfter marked] at unmarked
  cases unmarked

theorem transfers_executed_in_empty_home :
    homeContext.Prepared ∧ homeFiles.isDirectory homeContext.layout.sharedHome ∧
      homeContext.isMarked homeFiles = false ∧
      homeContext.isMarked ((provision homeContext).worldAfter { files := homeFiles }).files ∧
      Executes homeContext { files := homeFiles } applyTransfers := by
  have isDirectory : homeFiles.isDirectory homeContext.layout.sharedHome := by cbv
  have unmarked : homeContext.isMarked homeFiles = false := by cbv
  have marked : homeContext.isMarked
      ((provision homeContext).worldAfter { files := homeFiles }).files := by cbv
  have unmarkedThen : ¬ MarkedByInjection homeContext { files := homeFiles } :=
    not_markedByInjection prepared_homeContext.proper keepsFiles_homeContext isDirectory
  have decided : Executes homeContext { files := homeFiles } applyTransfers ↔ _ :=
    (injection_decides_transfers prepared_homeContext isDirectory).2 unmarked marked
  exact ⟨prepared_homeContext, isDirectory, unmarked, marked,
    decided.2 fun copied => unmarkedThen copied.1⟩

/-- A sync tool that copies a marker, where there is one in the source. -/
def markerCopier : Executor where
  run files _ command :=
    let source : Path := ⟨command.arguments.dropLast.getLastD []⟩
    let destination : Path := ⟨command.arguments.getLastD []⟩
    if files.hasEntry (source.joinText markerName) then
      match files.touch (destination.joinText markerName) with
      | .ok later => (later, .ok {})
      | .error _ => (files, .ok { code := 1 })
    else (files, .ok {})

/-- Files with a home in which the skeleton holds a marker, and a transfer file with a link. -/
def skeletonFiles : FileSystem :=
  homeFiles
    |>.add configLocation.tail (Text.encode configDirectoryName)
      (.directory directoryPermissions)
    |>.add configLocation (Text.encode skeletonName) (.directory directoryPermissions)
    |>.add (Text.encode skeletonName :: configLocation) (Text.encode markerName)
      (.file 0 filePermissions [])
    |>.add configLocation (Text.encode transferFileName)
      (.file 1 filePermissions (Text.encode "L notes\n"))

def copyingContext : Context := plainContext {
  home := .ofText "/home"
  hostName := "web01"
  entryPoint := .ofText "multihome"
  sync := ⟨.ofText syncProgramName, markerCopier⟩ }

/-- A skeleton that holds a marker lets a run copy the skeleton and leave out the transfers, and
the home is marked all the same. -/
theorem transfers_left_out_behind_copied_marker :
    copyingContext.Prepared ∧ skeletonFiles.isDirectory copyingContext.layout.sharedHome ∧
      (∃ moment, Reaches copyingContext { files := skeletonFiles } (steps.take 5) applyTransfers
        moment) ∧
      ¬ (Records copyingContext { files := skeletonFiles } injectSkeletons .notApplicable ↔
        Records copyingContext { files := skeletonFiles } applyTransfers .notApplicable) ∧
      copyingContext.isMarked skeletonFiles = false ∧
      copyingContext.isMarked
        ((provision copyingContext).worldAfter { files := skeletonFiles }).files ∧
      ¬ Executes copyingContext { files := skeletonFiles } applyTransfers := by
  have noHostGroups : skeletonFiles.readFile (hostGroupFileOf (.ofText "/home")) =
      .error .absent := by cbv
  have prepared : copyingContext.Prepared := prepared_plainContext noHostGroups (by decide)
  have isDirectory : skeletonFiles.isDirectory copyingContext.layout.sharedHome := by cbv
  have unmarked : copyingContext.isMarked skeletonFiles = false := by cbv
  have marked : copyingContext.isMarked
      ((provision copyingContext).worldAfter { files := skeletonFiles }).files := by cbv
  have recorded : ((provision copyingContext).worldAfter { files := skeletonFiles }).record =
      [] ++ [⟨"Create per-host home", .ok, none⟩, ⟨"Link topdir", .ok, none⟩,
        ⟨"Create skeleton directory", .skipped, some "already exists"⟩,
        ⟨"Create transfer config", .skipped, some "already exists"⟩,
        ⟨"Inject skeletons", .ok, none⟩, ⟨"Apply transfers", .notApplicable, none⟩,
        ⟨"Write marker", .skipped, some "already provisioned"⟩,
        ⟨"Generate init scripts", .notApplicable, none⟩] := by cbv
  have records {task : Task} {status : Log.TaskStatus} :
      Records copyingContext { files := skeletonFiles } task status ↔ _ :=
    records_iff_of_record recorded
  have spared : Records copyingContext { files := skeletonFiles } applyTransfers .notApplicable :=
    records.2 (by simp [applyTransfers])
  obtain ⟨moment, _, reaches, _⟩ :=
    spared.exists_reaches prepared.proper steps_eq_applyTransfers
  refine ⟨prepared, isDirectory, ⟨moment, reaches⟩, ?_, unmarked, marked, ?_⟩
  all_goals simp [Executes, records, injectSkeletons, applyTransfers]

end HostHome.Provision
