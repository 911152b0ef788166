import HostHome.Proofs.FileSystem.BlockedTrees
import HostHome.Proofs.Provision.SelfTest

/-!
# What a self-test leaves

A self-test puts up a tree in its directory for checks, and then takes away what has the
name of this directory, whatever it is.  So the files are as they were before if nothing
had this name, or a file, which is never taken for a directory.  A directory or a link
with this name is lost.  And where the name cannot be used, but a shorter spelling of it,
the tree stays.
-/

namespace HostHome.Provision

open HostHome.FileSystem (Alike Grows)

variable {world : World} {files later : FileSystem} {scratch base : Path}
  {directory location : Location} {name : Text.Bytes} {entry : Entry} {error : SystemError}
  {context : Context}

def scratchTree (scratch : Path) : Path := scratch.joinText "this/is/a/test"

theorem exerciseFiles_leads (put : (files.ensureTree (scratchTree scratch)).1 = later)
    (again : files.ensureTree (scratchTree scratch) = (later, .ok ()) →
      (later.ensureTree (scratchTree scratch)).1 = later)
    (missing : later.isDirectory (scratchTree scratch) = false) :
    Leads (· = files) (· = later) scratch (exerciseFiles scratch) := by
  rintro world ⟨rfl, named⟩
  unfold scratchTree at put again missing
  have continues : Continues (· = later) scratch world { world with files := later } :=
    ⟨⟨rfl, named⟩, rfl, [], by simp⟩
  simp only [exerciseFiles, Run.ends_bind, Run.ends_changeStepwise]
  cases first : world.files.ensureTree (scratch.joinText "this/is/a/test") with
  | mk middle result =>
      rw [first] at put
      cases put
      cases result with
      | error error => exact ⟨continues, by simp [Run.IsFailure]⟩
      | ok _ =>
          have second := again first
          cases twice : middle.ensureTree (scratch.joinText "this/is/a/test") with
          | mk last result =>
              rw [twice] at second
              cases second
              cases result with
              | error error => simpa [twice, Run.IsFailure] using continues
              | ok _ => simpa [twice, missing, failCheck, Run.IsFailure] using continues

theorem exerciseFiles_of_blocks (ordinary : OrdinaryName name)
    (leads : files.LeadsInto base directory) (blocks : files.Blocks directory name) :
    (files.ensureTree (scratchTree (base.join ⟨name⟩))).1 = files ∧
      Leads (· = files) (· = files) (base.join ⟨name⟩) (exerciseFiles (base.join ⟨name⟩)) := by
  obtain ⟨names, goes⟩ := goesOn_tree ordinary base
  have unchanged : (files.ensureTree (scratchTree (base.join ⟨name⟩))).1 = files :=
    blocks.ensureTree leads goes
  have missing := blocks.not_isDirectory (FileSystem.enters_of_goesOn leads goes)
  exact ⟨unchanged,
    exerciseFiles_leads unchanged (fun _ => unchanged) (Bool.eq_false_iff.2 missing)⟩

theorem exerciseFiles_of_refused (ordinary : OrdinaryName name)
    (refused : FileSystem.checkPath (base.join ⟨name⟩) = .error error) :
    Leads (· = files) (· = (files.ensureTree (scratchTree (base.join ⟨name⟩))).1)
      (base.join ⟨name⟩) (exerciseFiles (base.join ⟨name⟩)) := by
  have nonempty := Path.bytes_joinName_ne_nil ordinary base
  have relative : (Path.ofText "this/is/a/test").isAbsolute = false := by decide
  cases accepted : FileSystem.checkPath (scratchTree (base.join ⟨name⟩)) with
  | ok _ =>
      have acceptedBase := FileSystem.checkPath_of_join relative nonempty accepted
      rw [refused] at acceptedBase
      cases acceptedBase
  | error refusal =>
      refine exerciseFiles_leads rfl (fun done => ?_) (FileSystem.isDirectory_of_refused accepted)
      rw [FileSystem.ensureTree_of_refused accepted (Path.bytes_join_ne_nil nonempty relative) done]

/-- Where nothing can be removed, what was put up stays. -/
theorem checkFiles_leads_tree
    (exercise : Leads (· = files) (· = later) scratch (exerciseFiles scratch))
    (stays : ∀ {removed : FileSystem}, later.removeTree scratch ≠ .ok removed) :
    Leads (· = files) (· = later) scratch (checkFiles.run context) := by
  refine checkFiles_leads exercise (removeScratch_leads (fun same _ => same) ?_)
  rintro _ removed rfl cleared
  exact absurd cleared stays

theorem checkFiles_of_file (ordinary : OrdinaryName name) (leads : files.LeadsInto base directory)
    (found : files.findLink (base.join ⟨name⟩) = .ok (location, entry)) (isFile : entry.isFile) :
    Leads (· = files) (· = files) (base.join ⟨name⟩) (checkFiles.run context) := by
  obtain ⟨_, rfl, placed, present⟩ := FileSystem.placedAt_of_findLink
    (FileSystem.splitName?_joinName ordinary base) (Path.endsWithSlash_joinName ordinary base) found
  obtain ⟨_, _, _, leadsHere⟩ := (FileSystem.placedAt_joinName_iff ordinary).1 placed
  obtain rfl := leads.unique leadsHere
  refine checkFiles_leads_tree
    (exerciseFiles_of_blocks ordinary leads (.inr ⟨entry, present, isFile⟩)).2 ?_
  intro removed cleared
  obtain ⟨_, _, alsoFound, noFile⟩ := FileSystem.exists_of_removeTree cleared
  cases found.symm.trans alsoFound
  exact noFile isFile

theorem checkFiles_of_refused (ordinary : OrdinaryName name)
    (leads : files.LeadsInto base directory)
    (missed : files.findLink (base.join ⟨name⟩) = .error error) (other : error ≠ .absent) :
    Leads (· = files) (· = (files.ensureTree (scratchTree (base.join ⟨name⟩))).1)
      (base.join ⟨name⟩) (checkFiles.run context) := by
  have reason := FileSystem.refused_or_long_of_findLink ordinary leads missed other
  refine checkFiles_leads_tree ?_ ?_
  · rcases reason with refused | long
    · exact exerciseFiles_of_refused ordinary refused
    · obtain ⟨unchanged, exercise⟩ := exerciseFiles_of_blocks ordinary leads (.inl long)
      rwa [unchanged]
  · intro removed cleared
    obtain ⟨_, _, found, _⟩ := FileSystem.exists_of_removeTree cleared
    obtain ⟨accepted, short⟩ := FileSystem.accepted_of_findLink ordinary found
    rcases reason with refused | long
    · cases accepted.symm.trans refused
    · omega

theorem isFile_of_shape {now : Entry} (same : now.shape = entry.shape) :
    now.isFile = entry.isFile := by
  cases entry <;> cases now <;> simp_all [Entry.shape, Entry.isFile]

theorem exerciseFiles_grows (scratch : Path) :
    Preserves (Grows files) scratch (exerciseFiles scratch) := by
  apply exerciseFiles_preserves
  · intro grown grows
    obtain ⟨_, adds⟩ := FileSystem.exists_adds_of_ensureTree grown (scratchTree scratch)
    exact grows.trans adds.grows
  · intro grown later grows touched
    have ordinary : OrdinaryName (Text.encode "file") := by decide
    have permits : (FileSystem.Allowance.mk (fun _ _ => True) fun _ => True).Permits grown later :=
      FileSystem.permits_writeFile ordinary trivial touched
    exact grows.trans permits.grows

theorem checkFiles_of_noFile (ordinary : OrdinaryName name)
    (found : files.findLink (base.join ⟨name⟩) = .ok (location, entry))
    (noFile : ¬ entry.isFile) :
    Leads (· = files) (fun later => later.entryAt? location = none) (base.join ⟨name⟩)
      (checkFiles.run context) := by
  have open_ := Path.endsWithSlash_joinName ordinary base
  obtain ⟨directory, rfl, _⟩ := FileSystem.placedAt_of_findLink
    (FileSystem.splitName?_joinName ordinary base) open_ found
  have removed {grown : FileSystem} (grows : Grows files grown) :
      grown.removeTree (base.join ⟨name⟩) = .ok (grown.removeAt (name :: directory)) := by
    obtain ⟨now, foundNow, _, same⟩ := grows.findLink found
    exact FileSystem.removeTree_of_findLink open_ foundNow (by rwa [isFile_of_shape same])
  have start {begun : FileSystem} (same : begun = files) : Grows files begun := by
    rw [same]
    exact .refl files
  refine checkFiles_leads ((exerciseFiles_grows _).of start) (removeScratch_leads ?_ ?_)
  · intro grown error grows failed
    rw [removed grows] at failed
    cases failed
  · intro grown later grows cleared
    rw [removed grows] at cleared
    cases cleared
    exact FileSystem.entryAt?_removeAt_self

/-- The self-test can do nothing to the files: nothing has the name of its directory, or a file has
it, or the name cannot be used, and all directories of its tree are there or cannot be created. -/
def Spared (files : FileSystem) (scratch : Path) : Prop :=
  files.findLink scratch = .error .absent ∨
    (∃ location entry, files.findLink scratch = .ok (location, entry) ∧ entry.isFile) ∨
    (∃ error, files.findLink scratch = .error error ∧ error ≠ .absent) ∧
      ∀ location, (files.ensureTree (scratchTree scratch)).1.entryAt? location =
        files.entryAt? location

/-- What a self-test leaves.  All entries are the same if and only if the files are spared.  A
directory or a link with the name of its own directory is removed.  Where this name cannot be used,
the tree that was put up stays. -/
structure SelfTestLeaves (files : FileSystem) (scratch : Path) (later : FileSystem) : Prop where
  harmless_iff : (∀ location, later.entryAt? location = files.entryAt? location) ↔
    Spared files scratch
  removed : ∀ {location : Location} {entry : Entry},
    files.findLink scratch = .ok (location, entry) → ¬ entry.isFile →
      later.entryAt? location = none
  remains : ∀ {error : SystemError}, files.findLink scratch = .error error → error ≠ .absent →
    later = (files.ensureTree (scratchTree scratch)).1

theorem SelfTestLeaves.of_absent (absent : files.findLink scratch = .error .absent)
    (alike : Alike files later) : SelfTestLeaves files scratch later := by
  refine ⟨⟨fun _ => .inl absent, fun _ => alike.entries⟩, fun found => ?_, fun missed other => ?_⟩
  · cases absent.symm.trans found
  · cases absent.symm.trans missed
    exact absurd rfl other

theorem SelfTestLeaves.of_file (found : files.findLink scratch = .ok (location, entry))
    (isFile : entry.isFile) : SelfTestLeaves files scratch files := by
  refine ⟨⟨fun _ => .inr (.inl ⟨_, _, found, isFile⟩), fun _ _ => rfl⟩, fun also noFile => ?_,
    fun missed => ?_⟩
  · cases found.symm.trans also
    exact absurd isFile noFile
  · cases found.symm.trans missed

theorem SelfTestLeaves.of_noFile (found : files.findLink scratch = .ok (location, entry))
    (noFile : ¬ entry.isFile) (gone : later.entryAt? location = none) :
    SelfTestLeaves files scratch later := by
  refine ⟨⟨fun same => ?_, fun spared => ?_⟩, fun also _ => ?_, fun missed => ?_⟩
  · rw [same, FileSystem.entryAt?_of_findLink found] at gone
    cases gone
  · rcases spared with absent | ⟨_, _, also, isFile⟩ | ⟨⟨_, missed, _⟩, _⟩
    · cases found.symm.trans absent
    · cases found.symm.trans also
      exact absurd isFile noFile
    · cases found.symm.trans missed
  · cases found.symm.trans also
    exact gone
  · cases found.symm.trans missed

theorem SelfTestLeaves.of_refused
    (missed : files.findLink scratch = .error error) (other : error ≠ .absent) :
    SelfTestLeaves files scratch (files.ensureTree (scratchTree scratch)).1 := by
  refine ⟨⟨fun same => .inr (.inr ⟨⟨_, missed, other⟩, same⟩), fun spared => ?_⟩, fun found => ?_,
    fun _ _ => rfl⟩
  · rcases spared with absent | ⟨_, _, found, _⟩ | ⟨_, same⟩
    · cases missed.symm.trans absent
      exact absurd rfl other
    · cases missed.symm.trans found
    · exact same
  · cases missed.symm.trans found

/-- If there is a directory for temporary files, what a self-test leaves depends on what has the
name of its own directory there. -/
theorem selfTest_leaves (language : Config.PatternLanguage)
    (keeps : context.sync.executor.KeepsFiles)
    (temporary : ∃ directory, world.files.LeadsInto (temporaryDirectory world) directory) :
    (selfTest language context).Ends world fun _ after =>
      SelfTestLeaves world.files (scratchDirectory world) after.files := by
  obtain ⟨directory, leads⟩ := temporary
  have ordinary := ordinaryName_scratchName world
  have tested {holds : FileSystem → Prop}
      (check : Leads (· = world.files) holds (scratchDirectory world) (checkFiles.run context)) :
      (selfTest language context).Ends world fun _ after => holds after.files :=
    (selfTest_leads language keeps check ⟨rfl, rfl⟩).imp
      fun _ _ ⟨_, _, longer, _⟩ => longer.stands.files
  cases found : world.files.findLink (scratchDirectory world) with
  | error error =>
      by_cases absent : error = .absent
      · subst absent
        obtain ⟨placed, vacant⟩ := FileSystem.placedAt_of_findLink_eq_absent ordinary leads found
        have free : Free world.files (scratchDirectory world) directory (scratchName world) :=
          ⟨vacant, placed, temporaryDirectory world, ordinary, rfl⟩
        have start {begun : FileSystem} (same : begun = world.files) :
            Alike world.files begun := by
          rw [same]
          exact .refl _
        exact (tested ((checkFiles_preserves free).of start)).imp
          fun _ _ alike => .of_absent found alike
      · refine (tested (checkFiles_of_refused ordinary leads found absent)).imp ?_
        intro _ after left
        rw [left]
        exact .of_refused found absent
  | ok place =>
      obtain ⟨location, entry⟩ := place
      by_cases isFile : entry.isFile
      · refine (tested (checkFiles_of_file ordinary leads found isFile)).imp ?_
        intro _ after left
        rw [left]
        exact .of_file found isFile
      · exact (tested (checkFiles_of_noFile ordinary found isFile)).imp
          fun _ _ gone => .of_noFile found isFile gone

theorem selfTest_spares_home :
    homeContext.sync.executor.KeepsFiles ∧
      (∃ directory, (configuredWorld "/home").files.LeadsInto
        (temporaryDirectory (configuredWorld "/home")) directory) ∧
      ∀ location, ((selfTest Config.regularExpressions homeContext).worldAfter
        (configuredWorld "/home")).files.entryAt? location = configuredFiles.entryAt? location := by
  obtain ⟨_, _, temporary, absent⟩ := found_at_home
  have leaves := (selfTest_leaves Config.regularExpressions keepsFiles_homeContext
    ⟨_, temporary⟩).worldAfter
  exact ⟨keepsFiles_homeContext, ⟨_, temporary⟩, leaves.harmless_iff.2 (.inl absent)⟩

def firstScratchName : Text.Bytes := Text.encode "multihome-self-test-1"

def occupiedWorld : World :=
  { configuredWorld "/home" with
    files := configuredFiles.add [Text.encode "home"] firstScratchName
      (.directory directoryPermissions) }

theorem found_in_occupiedWorld :
    occupiedWorld.files.LeadsInto (temporaryDirectory occupiedWorld) [Text.encode "home"] ∧
      occupiedWorld.files.findLink (scratchDirectory occupiedWorld) =
        .ok ([firstScratchName, Text.encode "home"], .directory directoryPermissions) := by
  unfold FileSystem.LeadsInto
  refine ⟨?_, ?_⟩ <;> cbv

/-- A directory that has the name of the directory for checks is lost. -/
theorem not_selfTest_harmless :
    ¬ ∀ (context : Context) (world : World), context.sync.executor.KeepsFiles →
      (∃ directory, world.files.LeadsInto (temporaryDirectory world) directory) →
      ∀ location entry, world.files.entryAt? location = some entry →
        (((selfTest Config.regularExpressions context).worldAfter world).files.entryAt?
          location).isSome := by
  intro harmless
  obtain ⟨temporary, found⟩ := found_in_occupiedWorld
  have kept := harmless homeContext occupiedWorld keepsFiles_homeContext ⟨_, temporary⟩ _ _
    (FileSystem.entryAt?_of_findLink found)
  have check : Leads (· = occupiedWorld.files) _ (scratchDirectory occupiedWorld)
      (checkFiles.run homeContext) :=
    checkFiles_of_noFile (ordinaryName_scratchName occupiedWorld) found (by decide)
  obtain ⟨_, _, longer, _⟩ := (selfTest_leads Config.regularExpressions keepsFiles_homeContext
    check ⟨rfl, rfl⟩).worldAfter
  rw [longer.stands.files] at kept
  cases kept

end HostHome.Provision
