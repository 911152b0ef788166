import HostHome.Proofs.FileSystem.CorrectLinks
import HostHome.Proofs.FileSystem.Scratch
import HostHome.Proofs.FileSystem.TreeCreation

/-!
# Making sure of a link

A link is created only at a free place, out of what its source is.  Nothing else
changes, and the source and the destination are found afterwards where the link was
put, so that a second request finds the link.  Every other request leaves the files as
they are, also one for which the destination could not even be looked at: what stood in
the way of the look stands in the way of the creation.
-/

namespace HostHome.Link

open HostHome.FileSystem
open HostHome.Text (Bytes)

variable {files later : FileSystem} {link : Link} {directory place : Location} {name : Bytes}
  {entry : Entry}

def answer (files : FileSystem) (link : Link) : Except Cause LinkChange :=
  (link.ensure files).map Prod.fst

/-- The files that the request leaves.  One that fails leaves them as they are. -/
def filesAfter (files : FileSystem) (link : Link) : FileSystem :=
  match link.ensure files with
  | .ok (_, later) => later
  | .error _ => files

theorem ensure_eq_ok_iff {change : LinkChange} :
    link.ensure files = .ok (change, later) ↔
      link.answer files = .ok change ∧ link.filesAfter files = later := by
  unfold answer filesAfter
  cases link.ensure files with
  | error cause => simp [Except.map]
  | ok result => simp [Except.map, Prod.ext_iff]

theorem filesAfter_of_answer (other : link.answer files ≠ .ok .applied) :
    link.filesAfter files = files := by
  cases ensured : link.ensure files with
  | error cause => rw [filesAfter, ensured]
  | ok result =>
      obtain ⟨change, later⟩ := result
      obtain ⟨answered, same⟩ := ensure_eq_ok_iff.1 ensured
      have unapplied : change ≠ .applied := by
        rintro rfl
        exact other answered
      rw [same, ensure_eq_self ensured unapplied]

/-- The entry of which the link can be made: a symbolic link that holds the source as it is spelled,
or the entry at the source, unless that is a directory. -/
def MadeOf (files : FileSystem) (link : Link) (entry : Entry) : Prop :=
  match link.kind with
  | .symbolic =>
      checkPath link.source = .ok () ∧ entry = .symbolicLink files.freshInode link.source
  | .hard =>
      (∃ location, files.findLink link.source = .ok (location, entry)) ∧
        entry.isDirectory = false

def request (link : Link) (files : FileSystem) : Except SystemError FileSystem :=
  match link.kind with
  | .symbolic => files.makeSymbolicLink link.source link.destination
  | .hard => files.makeHardLink link.source link.destination

def failure (link : Link) (error : SystemError) : Cause :=
  match link.kind with
  | .symbolic => .symbolicLink link.destination link.source error
  | .hard => .hardLink link.destination link.source error

theorem apply_eq (files : FileSystem) (link : Link) :
    link.apply files = (link.request files).mapError link.failure := by
  unfold apply request failure
  cases link.kind <;> rfl

theorem zero_notMem_of_findLink {path : Path} {found : Location × Entry}
    (found : files.findLink path = .ok found) : 0 ∉ path.bytes := by
  cases accepted : checkPath path with
  | error error => simp [findLink, accepted, bind, Except.bind] at found
  | ok _ => exact (checkPath_ok_iff.1 accepted).1

theorem placeFor_of_zero {path : Path} (zero : 0 ∈ path.bytes) (slashAllowed : Bool) :
    files.placeFor path slashAllowed = .error .zeroInPath := by
  simp [placeFor, checkPath, zero, bind, Except.bind]

/-- With a source that is fit, everything depends on the place. -/
theorem request_eq (made : link.MadeOf files entry) :
    link.request files = (files.placeFor link.destination false).map fun free =>
      files.add free.1 free.2 entry := by
  unfold MadeOf at made
  unfold request
  by_cases zero : 0 ∈ link.destination.bytes
  · rw [placeFor_of_zero zero]
    cases link.kind <;> simp [makeSymbolicLink, makeHardLink, zero, Except.map]
  · cases kind : link.kind with
    | symbolic =>
        simp only [kind] at made
        obtain ⟨accepted, rfl⟩ := made
        have noZero := (checkPath_ok_iff.1 accepted).1
        cases free : files.placeFor link.destination false <;>
          simp [makeSymbolicLink, zero, noZero, accepted, free, bind, Except.bind, pure,
            Except.pure, Except.map]
    | hard =>
        simp only [kind] at made
        obtain ⟨⟨location, found⟩, noDirectory⟩ := made
        have noZero := zero_notMem_of_findLink found
        cases free : files.placeFor link.destination false <;>
          simp [makeHardLink, zero, noZero, found, noDirectory, free, bind, Except.bind, pure,
            Except.pure, Except.map]

theorem madeOf_of_apply (applied : link.apply files = .ok later) :
    ∃ directory name entry, files.PlacedAt link.destination directory name ∧
      files.entryAt? (name :: directory) = none ∧ link.MadeOf files entry ∧
      later = files.add directory name entry := by
  obtain ⟨directory, name, entry, placed, vacant, same, symbolic, hard⟩ :=
    placedAt_of_apply applied
  refine ⟨directory, name, entry, placed, vacant, ?_, same⟩
  unfold MadeOf
  cases kind : link.kind with
  | symbolic =>
      refine ⟨?_, symbolic kind⟩
      rw [apply_eq] at applied
      have made := ok_of_mapError applied
      simp only [request, kind, makeSymbolicLink] at made
      split at made
      · cases made
      · cases accepted : checkPath link.source with
        | ok _ => rfl
        | error error => simp [accepted, bind, Except.bind] at made
  | hard =>
      obtain ⟨noDirectory, found⟩ := hard kind
      exact ⟨found, noDirectory⟩

/-- A link is created exactly at a free place without a slash behind its name, out of a source that
is fit for it. -/
theorem apply_eq_ok_iff :
    link.apply files = .ok later ↔ ∃ directory name entry,
      files.PlacedAt link.destination directory name ∧
      files.entryAt? (name :: directory) = none ∧ link.destination.endsWithSlash = false ∧
      link.MadeOf files entry ∧ later = files.add directory name entry := by
  constructor
  · intro applied
    obtain ⟨directory, name, entry, placed, vacant, made, same⟩ := madeOf_of_apply applied
    exact ⟨directory, name, entry, placed, vacant, endsWithSlash_of_apply applied, made, same⟩
  · rintro ⟨directory, name, entry, placed, vacant, open_, made, rfl⟩
    rw [apply_eq, request_eq made, placed.placeFor_eq]
    simp [vacant, open_, Except.map, Except.mapError]

theorem apply_of_occupied (made : link.MadeOf files entry)
    (placed : files.PlacedAt link.destination directory name)
    (present : (files.entryAt? (name :: directory)).isSome) :
    link.apply files = .error (link.failure .occupied) := by
  rw [apply_eq, request_eq made, placed.placeFor_eq, if_pos present]
  rfl

theorem state_eq_missing_of_apply (applied : link.apply files = .ok later) :
    link.state files = .missing := by
  obtain ⟨directory, name, entry, placed, vacant, open_, _⟩ := apply_eq_ok_iff.1 applied
  rw [state_eq_missing_iff, hasEntry, placed.findLink_eq open_, vacant]
  rfl

/-- A link is created by a request if it can be created at all: what the look before it finds does
not matter. -/
theorem ensure_eq_applied_iff :
    link.ensure files = .ok (.applied, later) ↔ link.apply files = .ok later := by
  constructor
  · intro ensured
    unfold ensure at ensured
    split at ensured
    · cases applied : link.apply files <;>
        simp_all [bind, Except.bind, pure, Except.pure]
    · cases ensured
    · cases ensured
  · intro applied
    rw [ensure, state_eq_missing_of_apply applied]
    simp [applied, bind, Except.bind, pure, Except.pure]

/-- Whatever is added, a source that is fit stays so. -/
theorem exists_madeOf_add (made : link.MadeOf files entry) (directory : Location) (name : Bytes)
    (new : Entry) : ∃ other, link.MadeOf (files.add directory name new) other := by
  unfold MadeOf at made ⊢
  cases kind : link.kind with
  | symbolic =>
      simp only [kind] at made
      exact ⟨_, made.1, rfl⟩
  | hard =>
      simp only [kind] at made
      obtain ⟨⟨location, found⟩, noDirectory⟩ := made
      have kept : (files.add directory name new).entryAt? location = some entry :=
        entryAt?_add_of_some (entryAt?_of_findLink found)
      exact ⟨entry, ⟨location, (grows_add ..).findLink_of_kept found kept⟩, noDirectory⟩

theorem apply_of_created (applied : link.apply files = .ok later) :
    link.apply later = .error (link.failure .occupied) := by
  obtain ⟨directory, name, entry, placed, vacant, _, made, rfl⟩ := apply_eq_ok_iff.1 applied
  obtain ⟨placedLater, present⟩ := placed.add vacant entry
  obtain ⟨other, madeLater⟩ := exists_madeOf_add made directory name entry
  exact apply_of_occupied madeLater placedLater (by rw [present]; rfl)

/-- The link is a new entry at a place, nothing else has changed, and the source is still what the
link is made of. -/
structure AddsAt (link : Link) (files later : FileSystem) (place : Location) (entry : Entry) :
    Prop where
  current : later.current = files.current
  /-- The place was free, and there was nothing to be seen at the destination. -/
  vacant : files.entryAt? place = none
  absent : files.findLink link.destination = .error .absent
  /-- The entry is what the destination is now. -/
  found : later.findLink link.destination = .ok (place, entry)
  others : ∀ location ≠ place, later.entryAt? location = files.entryAt? location
  /-- A symbolic link holds the source as it is spelled, and is no entry twice. -/
  symbolic : link.kind = .symbolic → ∃ inode, entry = .symbolicLink inode link.source ∧
    ∀ location other, files.entryAt? location = some other → other.inode? ≠ some inode
  /-- A hard link is the file at the source, which stays where it is. -/
  hard : link.kind = .hard → ∃ location inode, entry.inode? = some inode ∧
    files.findLink link.source = .ok (location, entry) ∧
    later.findLink link.source = .ok (location, entry)

theorem exists_addsAt_of_apply (applied : link.apply files = .ok later) :
    ∃ place entry, link.AddsAt files later place entry := by
  obtain ⟨directory, name, entry, placed, vacant, open_, made, rfl⟩ := apply_eq_ok_iff.1 applied
  have grows := grows_add files directory name entry
  obtain ⟨placedLater, present⟩ := placed.add vacant entry
  refine ⟨name :: directory, entry, grows.current, vacant, ?_, ?_, ?_, ?_, ?_⟩
  · rw [placed.findLink_eq open_, vacant]
  · exact placedLater.findLink_eq_ok open_ present
  · intro location other
    rw [entryAt?_add placed.isDirectoryAt vacant, if_neg other]
  · intro kind
    simp only [MadeOf, kind] at made
    refine ⟨files.freshInode, made.2, fun location other found numbered => ?_⟩
    exact Nat.lt_irrefl _ (inode_lt_freshInode found numbered)
  · intro kind
    simp only [MadeOf, kind] at made
    obtain ⟨⟨location, found⟩, noDirectory⟩ := made
    obtain ⟨inode, numbered⟩ := Entry.exists_inode? noDirectory
    refine ⟨location, inode, numbered, found, ?_⟩
    exact grows.findLink_of_kept found (entryAt?_add_of_some (entryAt?_of_findLink found))

/-- A link is added exactly if its place is free and its source is fit.  Then nothing else has
changed, the link is correct, and a second request finds it.  Whatever else is answered, the files are
as they were, and the same request gives the same answer again. -/
theorem ensure_adds_or_leaves (files : FileSystem) (link : Link) :
    (link.answer files = .ok .applied ↔ ∃ directory name entry,
      files.PlacedAt link.destination directory name ∧
      files.entryAt? (name :: directory) = none ∧ link.destination.endsWithSlash = false ∧
      link.MadeOf files entry) ∧
    (link.answer files = .ok .applied →
      (∃ place entry, link.AddsAt files (link.filesAfter files) place entry) ∧
      link.state (link.filesAfter files) = .correct ∧
      link.answer (link.filesAfter files) = .ok .alreadyCorrect ∧
      link.filesAfter (link.filesAfter files) = link.filesAfter files) ∧
    (link.answer files ≠ .ok .applied →
      link.filesAfter files = files ∧
      link.answer (link.filesAfter files) = link.answer files) := by
  refine ⟨?_, ?_, ?_⟩
  · constructor
    · intro answered
      have ensured := ensure_eq_ok_iff.2 ⟨answered, rfl⟩
      obtain ⟨directory, name, entry, placed, vacant, open_, made, _⟩ :=
        apply_eq_ok_iff.1 (ensure_eq_applied_iff.1 ensured)
      exact ⟨directory, name, entry, placed, vacant, open_, made⟩
    · rintro ⟨directory, name, entry, placed, vacant, open_, made⟩
      have applied := apply_eq_ok_iff.2 ⟨_, _, _, placed, vacant, open_, made, rfl⟩
      exact (ensure_eq_ok_iff.1 (ensure_eq_applied_iff.2 applied)).1
  · intro answered
    have applied := ensure_eq_applied_iff.1 (ensure_eq_ok_iff.2 ⟨answered, rfl⟩)
    have correct := state_eq_correct_of_apply applied
    obtain ⟨again, same⟩ := ensure_eq_ok_iff.1 (ensure_of_correct correct)
    exact ⟨exists_addsAt_of_apply applied, correct, again, same⟩
  · intro other
    have same := filesAfter_of_answer other
    exact ⟨same, by rw [same]⟩

def otherName : Link := ⟨.hard, .ofText "/d/f", .ofText "/d/g"⟩

def takenName : Link := ⟨.symbolic, .ofText "/d", .ofText "/d/f"⟩

theorem added_under_other_name_only :
    otherName.answer filesWithFile = .ok .applied ∧
      (∃ place entry,
        otherName.AddsAt filesWithFile (otherName.filesAfter filesWithFile) place entry) ∧
      otherName.answer (otherName.filesAfter filesWithFile) = .ok .alreadyCorrect ∧
      takenName.answer filesWithFile = .ok (.skipped .file) ∧
      takenName.filesAfter filesWithFile = filesWithFile := by
  have answered : otherName.answer filesWithFile = .ok .applied := by cbv
  have taken : takenName.answer filesWithFile = .ok (.skipped .file) := by cbv
  obtain ⟨adds, _, again, _⟩ := (ensure_adds_or_leaves filesWithFile otherName).2.1 answered
  have unapplied : takenName.answer filesWithFile ≠ .ok .applied := by simp [taken]
  obtain ⟨same, _⟩ := (ensure_adds_or_leaves filesWithFile takenName).2.2 unapplied
  exact ⟨answered, adds, again, taken, same⟩

end HostHome.Link
