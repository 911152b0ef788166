import HostHome.Proofs.FileSystem.DeliveredTrees
import HostHome.Proofs.FileSystem.Scratch

/-!
# Trees that cannot be put up or taken away

No path leads beyond a file, or beyond a name that is too long.  So a tree that would
have to go on there is not put up, not even in part.  A path that is too long itself is
refused as a whole, though the directories at its beginnings may be created.
-/

namespace HostHome.FileSystem

open HostHome.Text (Bytes)

variable {files middle later : FileSystem} {directory location : Location}
  {base path upper : Path} {name : Bytes} {names : List Bytes} {entry : Entry}
  {error : SystemError}

/-- Nothing is beyond the name in a directory: it is too long, or it is that of a file. -/
def Blocks (files : FileSystem) (directory : Location) (name : Bytes) : Prop :=
  nameLimit < name.length ∨
    ∃ entry, files.entryAt? (name :: directory) = some entry ∧ entry.isFile

theorem isDirectory_of_isFile (isFile : entry.isFile) : entry.isDirectory = false := by
  cases entry <;> first | rfl | cases isFile

theorem Blocks.ends (blocks : files.Blocks directory name) {links left : Nat} {spot : Spot}
    (walks : Walks files links directory ((name :: names).map .name) left spot) :
    spot = .entry (name :: directory) false ∧ ¬ files.isDirectoryAt (name :: directory) := by
  have noDirectory {found : Entry} (present : files.entryAt? (name :: directory) = some found)
      (short : name.length ≤ nameLimit) :
      found.isFile ∧ ¬ files.isDirectoryAt (name :: directory) := by
    obtain ⟨file, here, isFile⟩ := blocks.resolve_left (Nat.not_lt.2 short)
    obtain rfl := Option.some.inj (here.symm.trans present)
    exact ⟨isFile, by simp [FileSystem.isDirectoryAt, present, isDirectory_of_isFile isFile]⟩
  cases walks with
  | vacant _ short free =>
      obtain ⟨_, present, _⟩ := blocks.resolve_left (Nat.not_lt.2 short)
      rw [free] at present
      cases present
  | follow _ short linked => cases (noDirectory linked short).1
  | enter _ short found _ walks =>
      obtain ⟨_, outside⟩ := noDirectory found short
      refine ⟨?_, outside⟩
      cases names with
      | nil => cases walks; rfl
      | cons => cases walks <;> exact absurd ‹_› outside

theorem Blocks.ends_of_enters (blocks : files.Blocks directory name)
    (enters : files.Enters (name :: directory) path) {left : Nat} {spot : Spot}
    (walks : Walks files linkLimit (startOf files.current path) path.course left spot) :
    spot = .entry (name :: directory) false ∧ ¬ files.isDirectoryAt (name :: directory) := by
  obtain ⟨base, _, _, names, leads, ⟨⟩, absolute, course⟩ := enters
  rw [startOf_of_isAbsolute _ absolute] at walks
  obtain ⟨_, _, _, first, second⟩ := walks.split course (by simp)
  obtain ⟨_, _, _, reached⟩ := walkToDirectory_eq_ok_iff.1 leads
  obtain ⟨_, same⟩ := first.unique reached
  cases same
  exact blocks.ends second

theorem Blocks.not_isDirectory (blocks : files.Blocks directory name)
    (enters : files.Enters (name :: directory) path) : ¬ files.isDirectory path := by
  intro isDirectory
  obtain ⟨_, location, leads⟩ := isDirectory_iff.1 isDirectory
  obtain ⟨within, _, _, walks⟩ := walkToDirectory_eq_ok_iff.1 leads
  obtain ⟨same, outside⟩ := blocks.ends_of_enters enters walks
  cases same
  exact outside within

theorem Blocks.makeDirectory_ne_ok (blocks : files.Blocks directory name)
    (either : (∃ location, files.LeadsInto path location) ∨
      files.Enters (name :: directory) path) : files.makeDirectory path ≠ .ok later := by
  intro made
  obtain ⟨_, own, placed, free, _⟩ := placedAt_of_makeDirectory made
  rcases either with ⟨location, leads⟩ | enters
  · have taken := leads.taken placed.accepted
    rw [Taken, made] at taken
    cases taken
  · obtain ⟨_, walks⟩ := placed.exists_walks free
    cases (blocks.ends_of_enters enters walks).1

/-- A tree that goes on beyond such a name is not put up, not even in part. -/
theorem Blocks.ensureTree (blocks : files.Blocks directory name)
    (leads : files.LeadsInto base directory) (goes : base.GoesOn (name :: names) path) :
    (files.ensureTree path).1 = files := by
  cases spelled : Text.decode? path.bytes with
  | some text =>
      rw [ensureTree_of_spelled spelled]
      refine Eq.symm (ensureSteps_preserves ?_ rfl)
      rintro upper member _ later rfl made
      exact absurd made (blocks.makeDirectory_ne_ok
        (leadsInto_or_enters_of_mem_treeSteps leads goes member))
  | none =>
      rw [ensureTree_of_unspelled spelled, createAll]
      split
      · rfl
      · refine Eq.symm (createUpward_preserves ?_ rfl)
        rintro upper member _ later rfl made
        exact absurd made (blocks.makeDirectory_ne_ok
          (leadsInto_or_enters_of_mem_pathsUpward leads goes member))

theorem isDirectory_of_refused (refused : checkPath path = .error error) :
    files.isDirectory path = false := by
  rw [Bool.eq_false_iff]
  intro isDirectory
  rw [(isDirectory_iff.1 isDirectory).1] at refused
  cases refused

theorem refused_or_long_of_findLink (ordinary : OrdinaryName name)
    (leads : files.LeadsInto base directory)
    (missed : files.findLink (base.join ⟨name⟩) = .error error) (other : error ≠ .absent) :
    checkPath (base.join ⟨name⟩) = .error error ∨ nameLimit < name.length := by
  cases accepted : checkPath (base.join ⟨name⟩) with
  | error refusal =>
      simp only [findLink, accepted, bind, Except.bind, Except.error.injEq] at missed
      exact .inl (congrArg _ missed)
  | ok _ =>
      right
      by_contra short
      have placed := (placedAt_joinName_iff ordinary).2
        ⟨accepted, rfl, Nat.not_lt.1 short, leads⟩
      rw [placed.findLink_eq (Path.endsWithSlash_joinName ordinary base)] at missed
      split at missed
      · cases missed
        exact other rfl
      · cases missed

theorem accepted_of_findLink (ordinary : OrdinaryName name)
    (found : files.findLink (base.join ⟨name⟩) = .ok (location, entry)) :
    checkPath (base.join ⟨name⟩) = .ok () ∧ name.length ≤ nameLimit := by
  obtain ⟨_, _, placed, _⟩ := placedAt_of_findLink (splitName?_joinName ordinary base)
    (Path.endsWithSlash_joinName ordinary base) found
  obtain ⟨accepted, _, short, _⟩ := (placedAt_joinName_iff ordinary).1 placed
  exact ⟨accepted, short⟩

/-- A tree that could be put up although its path is refused is put up again without a change. -/
theorem ensureTree_of_refused (refused : checkPath path = .error error)
    (nonempty : path.bytes ≠ []) (done : files.ensureTree path = (later, .ok ())) :
    later.ensureTree path = (later, .ok ()) := by
  cases spelled : Text.decode? path.bytes with
  | some text =>
      rw [ensureTree_of_spelled spelled] at done ⊢
      exact ensureSteps_of_taken (taken_of_ensureSteps done)
  | none =>
      have failed : files.makeDirectory path = .error error := by
        simp [FileSystem.makeDirectory, placeFor, refused, bind, Except.bind]
      have some : path.isEmpty = false := by simpa [Path.isEmpty] using nonempty
      have present : error ≠ .absent := by
        rintro rfl
        exact checkPath_ne_absent nonempty refused
      have free : error ≠ .occupied := by
        rintro rfl
        exact checkPath_ne_occupied refused
      simp [FileSystem.ensureTree, spelled, createAll, some, pathsUpward, createUpward, failed,
        present, acceptDirectory, isDirectory_of_refused refused, free] at done

theorem removeTree_of_findLink (open_ : path.endsWithSlash = false)
    (found : files.findLink path = .ok (name :: directory, entry)) (noFile : ¬ entry.isFile) :
    files.removeTree path = .ok (files.removeAt (name :: directory)) := by
  cases entry with
  | file => exact absurd rfl noFile
  | directory | symbolicLink =>
      simp [FileSystem.removeTree, FileSystem.remove, found, open_, bind, Except.bind, pure,
        Except.pure]

theorem entryAt?_removeAt_self : (files.removeAt (name :: directory)).entryAt? (name :: directory) =
    none := by
  rw [entryAt?_removeAt (by simp)]
  simp [isAtOrBelow]

/-- Only what is found can be removed, and no file. -/
theorem exists_of_removeTree (removed : files.removeTree path = .ok later) :
    ∃ location entry, files.findLink path = .ok (location, entry) ∧ ¬ entry.isFile := by
  cases found : files.findLink path with
  | error error => simp [FileSystem.removeTree, found, bind, Except.bind] at removed
  | ok place =>
      obtain ⟨location, entry⟩ := place
      refine ⟨location, entry, rfl, ?_⟩
      intro isFile
      cases entry with
      | file => simp [FileSystem.removeTree, found, bind, Except.bind] at removed
      | directory | symbolicLink => cases isFile

end HostHome.FileSystem
