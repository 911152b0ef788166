import Mathlib
import HostHome.Proofs.FileSystem.Masks
import HostHome.Proofs.FileSystem.TreeBytes

/-!
# What the creation of a tree does

The creation of a tree adds directories that are reached by paths of the tree, under
any mask, and changes nothing else.  It stops at the first path at which a directory
cannot be created, and then everything before it is there.  Whatever is there stays
there, so that a second creation has nothing to do.
-/

namespace HostHome.FileSystem

open HostHome.Text (Bytes)

variable {files middle later : FileSystem} {mask : Nat} {path upper : Path} {paths : List Path}
  {location : Location} {entry : Entry} {error : SystemError}

/-- Directories were added under a mask, each reached by one of the paths, and everything else is as
it was. -/
structure AddsDirectories (mask : Nat) (paths : List Path) (files later : FileSystem) : Prop where
  current : later.current = files.current
  kept : ∀ {location : Location} {entry : Entry}, files.entryAt? location = some entry →
    later.entryAt? location = some entry
  added : ∀ {location : Location} {entry : Entry}, files.entryAt? location = none →
    later.entryAt? location = some entry →
      entry = .directory (permissionsUnder mask) ∧ ∃ upper ∈ paths, later.LeadsInto upper location

namespace AddsDirectories

theorem refl (files : FileSystem) : AddsDirectories mask paths files files :=
  ⟨rfl, id, fun absent present => by rw [absent] at present; cases present⟩

theorem grows (adds : AddsDirectories mask paths files later) : Grows files later :=
  ⟨adds.current, fun present => ⟨_, adds.kept present, rfl⟩⟩

theorem mono {more : List Path} (adds : AddsDirectories mask paths files later)
    (within : paths ⊆ more) : AddsDirectories mask more files later := by
  refine ⟨adds.current, adds.kept, fun absent present => ?_⟩
  obtain ⟨directory, upper, member, leads⟩ := adds.added absent present
  exact ⟨directory, upper, within member, leads⟩

theorem trans (first : AddsDirectories mask paths files middle)
    (second : AddsDirectories mask paths middle later) :
    AddsDirectories mask paths files later := by
  refine ⟨second.current.trans first.current, fun present => second.kept (first.kept present), ?_⟩
  intro location entry absent present
  cases between : middle.entryAt? location with
  | none => exact second.added between present
  | some old =>
      obtain ⟨directory, upper, member, leads⟩ := first.added absent between
      have same := (second.kept between).symm.trans present
      cases Option.some.inj same
      exact ⟨directory, upper, member, second.grows.leadsInto leads⟩

theorem entryAt?_eq_some (adds : AddsDirectories mask paths files later)
    (present : later.entryAt? location = some entry) (other : entry.isDirectory = false) :
    files.entryAt? location = some entry := by
  cases before : files.entryAt? location with
  | none =>
      obtain ⟨rfl, _⟩ := adds.added before present
      cases other
  | some old => exact (adds.kept before).symm.trans present

end AddsDirectories

theorem adds_of_makeDirectoryUnder (made : files.makeDirectoryUnder mask path = .ok later) :
    AddsDirectories mask [path] files later := by
  obtain ⟨directory, name, placed, vacant, rfl⟩ := placedAt_of_makeDirectoryUnder made
  refine ⟨current_add .., entryAt?_add_of_some, fun {location entry} absent present => ?_⟩
  rw [entryAt?_add placed.isDirectoryAt vacant] at present
  split at present
  · next same =>
      subst same
      obtain ⟨placedLater, found⟩ := placed.add vacant (.directory (permissionsUnder mask))
      exact ⟨(Option.some.inj present).symm, path, by simp, placedLater.leadsInto found⟩
  · rw [absent] at present
    cases present

theorem taken_of_makeDirectoryUnder (made : files.makeDirectoryUnder mask path = .ok later) :
    later.Taken path := by
  obtain ⟨directory, name, placed, vacant, rfl⟩ := placedAt_of_makeDirectoryUnder made
  obtain ⟨placedLater, found⟩ := placed.add vacant (.directory (permissionsUnder mask))
  exact taken_iff.2 (.inr ⟨directory, name, _, placedLater, found⟩)

theorem ensureStepUnder_eq_ok (done : files.ensureStepUnder mask path = .ok later) :
    (files.Taken path ∧ later = files) ∨ files.makeDirectoryUnder mask path = .ok later := by
  unfold ensureStepUnder at done
  split at done
  · next error refused =>
      split at done
      · next occupied =>
          subst occupied
          cases done
          exact .inl ⟨taken_iff_makeDirectoryUnder.2 refused, rfl⟩
      · cases done
  · next made => cases done; exact .inr made

theorem ensureStepUnder_of_taken (taken : files.Taken path) :
    files.ensureStepUnder mask path = .ok files := by
  simp [ensureStepUnder, taken_iff_makeDirectoryUnder.1 taken]

theorem ensureStepUnder_eq_error (failed : files.ensureStepUnder mask path = .error error) :
    files.makeDirectoryUnder mask path = .error error ∧ error ≠ .occupied := by
  unfold ensureStepUnder at failed
  split at failed
  · next refused =>
      split at failed
      · cases failed
      · next other => cases failed; exact ⟨refused, other⟩
  · cases failed

theorem adds_of_ensureStepUnder (done : files.ensureStepUnder mask path = .ok later) :
    AddsDirectories mask [path] files later := by
  rcases ensureStepUnder_eq_ok done with ⟨_, rfl⟩ | made
  · exact .refl _
  · exact adds_of_makeDirectoryUnder made

theorem taken_of_ensureStepUnder (done : files.ensureStepUnder mask path = .ok later) :
    later.Taken path := by
  rcases ensureStepUnder_eq_ok done with ⟨taken, rfl⟩ | made
  · exact taken
  · exact taken_of_makeDirectoryUnder made

theorem ensureStepsUnder_adds (files : FileSystem) (mask : Nat) (paths : List Path) :
    AddsDirectories mask paths files (files.ensureStepsUnder mask paths).1 := by
  induction paths generalizing files with
  | nil => exact .refl files
  | cons path rest ih =>
      rw [ensureStepsUnder]
      cases done : files.ensureStepUnder mask path with
      | error error => exact .refl files
      | ok middle =>
          have first := (adds_of_ensureStepUnder done).mono
            (show [path] ⊆ path :: rest by simp)
          exact first.trans ((ih middle).mono (List.subset_cons_self path rest))

theorem taken_of_ensureStepsUnder (done : files.ensureStepsUnder mask paths = (later, .ok ())) :
    ∀ path ∈ paths, later.Taken path := by
  induction paths generalizing files with
  | nil => simp
  | cons path rest ih =>
      rw [ensureStepsUnder] at done
      split at done
      · next middle first =>
          intro other member
          rcases List.mem_cons.1 member with rfl | member
          · have adds := ensureStepsUnder_adds middle mask rest
            rw [done] at adds
            exact adds.grows.taken (taken_of_ensureStepUnder first)
          · exact ih done other member
      · cases done

theorem ensureStepsUnder_of_taken (taken : ∀ path ∈ paths, files.Taken path) :
    files.ensureStepsUnder mask paths = (files, .ok ()) := by
  induction paths with
  | nil => rfl
  | cons path rest ih =>
      rw [ensureStepsUnder, ensureStepUnder_of_taken (taken path (by simp))]
      exact ih fun other member => taken other (by simp [member])

/-- Where the creation fails, all paths before are done, and the error is that of the first path
that is not. -/
theorem exists_failing_of_ensureStepsUnder
    (failed : files.ensureStepsUnder mask paths = (later, .error error)) :
    ∃ before failing behind, paths = before ++ failing :: behind ∧
      files.ensureStepsUnder mask before = (later, .ok ()) ∧
      later.makeDirectoryUnder mask failing = .error error ∧ error ≠ .occupied := by
  induction paths generalizing files with
  | nil => cases failed
  | cons path rest ih =>
      rw [ensureStepsUnder] at failed
      split at failed
      · next middle done =>
          obtain ⟨before, failing, behind, rfl, first, refused⟩ := ih failed
          refine ⟨path :: before, failing, behind, rfl, ?_, refused⟩
          rw [ensureStepsUnder, done]
          exact first
      · next error refused =>
          cases failed
          exact ⟨[], path, rest, rfl, rfl, ensureStepUnder_eq_error refused⟩

/-- The creation stopped at a path of the tree: at all paths before it something is there, of what
they reach the directories were created that were missing, and at the path itself a directory cannot
be created. -/
def StopsAt (mask : Nat) (path : Path) (files later : FileSystem) (error : SystemError) : Prop :=
  ∃ before failing behind, treeSteps path = before ++ failing :: behind ∧
    later.makeDirectoryUnder mask failing = .error error ∧ error ≠ .occupied ∧
    (∀ upper ∈ before, later.Taken upper) ∧
    ∀ location, files.entryAt? location = none →
      ((later.entryAt? location).isSome ↔ ∃ upper ∈ before, later.LeadsInto upper location)

theorem stopsAt_of_ensureTreeUnder
    (failed : files.ensureTreeUnder mask path = (later, .error error)) :
    StopsAt mask path files later error := by
  obtain ⟨before, failing, behind, spelled, done, refused, other⟩ :=
    exists_failing_of_ensureStepsUnder failed
  refine ⟨before, failing, behind, spelled, refused, other, taken_of_ensureStepsUnder done, ?_⟩
  intro location absent
  have adds := ensureStepsUnder_adds files mask before
  rw [done] at adds
  constructor
  · intro present
    obtain ⟨entry, present⟩ := Option.isSome_iff_exists.1 present
    exact (adds.added absent present).2
  · rintro ⟨upper, _, leads⟩
    obtain ⟨entry, present, _⟩ := Option.any_eq_true .. |>.1 leads.isDirectoryAt
    exact Option.isSome_iff_exists.2 ⟨entry, present⟩

theorem taken_of_mem_treeSteps (isDirectory : files.isDirectory path)
    (member : upper ∈ treeSteps path) : files.Taken upper := by
  obtain ⟨accepted, directory, leads⟩ := isDirectory_iff.1 isDirectory
  obtain ⟨absolute, rest, course⟩ := course_of_mem_treeSteps member
  obtain ⟨place, above⟩ := leads.above absolute course.symm
  exact above.taken (checkPath_of_mem_treeSteps accepted member)

/-- The creation of a tree whose path is a text, under any mask: however it ends, every entry is
there as before, and what is new are directories at beginnings of the path, with the permissions
that the mask leaves.  Where it fails, it has created what was missing before the path that fails,
and the error is the one for this path.  A directory that is there is created without a change, and
so is a tree that was created before. -/
theorem ensureTreeUnder_creates {text : String} (spelled : Text.decode? path.bytes = some text)
    (mask : Nat) (files : FileSystem) :
    ∃ later result, files.ensureTreeUnder mask path = (later, result) ∧
      AddsDirectories mask (treeSteps path) files later ∧
      (∀ upper ∈ treeSteps path, upper.components <+: path.components) ∧
      (∀ error, result = .error error → StopsAt mask path files later error) ∧
      (result = .ok () → ∀ other, later.ensureTreeUnder other path = (later, .ok ())) ∧
      (files.isDirectory path → later = files ∧ result = .ok ()) ∧
      files.ensureTree path = files.ensureTreeUnder usualMask path := by
  refine ⟨_, _, rfl, ensureStepsUnder_adds files mask (treeSteps path), ?_, ?_, ?_, ?_,
    ensureTree_eq_ensureTreeUnder spelled⟩
  · exact fun upper member => (begins_of_mem_treeSteps member).components
  · exact fun error failed => stopsAt_of_ensureTreeUnder (Prod.ext rfl failed)
  · intro done other
    exact ensureStepsUnder_of_taken (taken_of_ensureStepsUnder (Prod.ext rfl done))
  · intro isDirectory
    have unchanged : files.ensureStepsUnder mask (treeSteps path) = (files, .ok ()) :=
      ensureStepsUnder_of_taken fun upper => taken_of_mem_treeSteps isDirectory
    rw [unchanged]
    exact ⟨rfl, rfl⟩

def filesWithFile : FileSystem :=
  (FileSystem.empty.add [] (Text.encode "d") (.directory directoryPermissions)).add
    [Text.encode "d"] (Text.encode "f") (.file 1 filePermissions [])

theorem tree_stops_behind_file :
    Text.decode? (Path.ofText "/d/e/../f/g").bytes = some "/d/e/../f/g" ∧ ∃ later,
      filesWithFile.ensureTreeUnder 0o077 (.ofText "/d/e/../f/g") = (later, .error .notDirectory) ∧
      later.entryAt? [Text.encode "e", Text.encode "d"] = some (.directory 0o700) ∧
      StopsAt 0o077 (.ofText "/d/e/../f/g") filesWithFile later .notDirectory := by
  have spelled : Text.decode? (Path.ofText "/d/e/../f/g").bytes = some "/d/e/../f/g" := by
    decide +kernel
  obtain ⟨later, result, created, _, _, stops, _⟩ :=
    ensureTreeUnder_creates spelled 0o077 filesWithFile
  have failed : (filesWithFile.ensureTreeUnder 0o077 (.ofText "/d/e/../f/g")).2 =
      .error .notDirectory := by cbv
  have present : (filesWithFile.ensureTreeUnder 0o077 (.ofText "/d/e/../f/g")).1.entryAt?
      [Text.encode "e", Text.encode "d"] = some (.directory 0o700) := by cbv
  rw [created] at failed present
  dsimp only at failed present
  subst failed
  exact ⟨spelled, later, created, present, stops _ rfl⟩

end HostHome.FileSystem
