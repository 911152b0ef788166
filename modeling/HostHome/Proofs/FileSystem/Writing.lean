import HostHome.Link
import HostHome.Proofs.FileSystem.Above
import HostHome.Proofs.FileSystem.Allowance

/-!
# What requests write

Each request that succeeds adds one entry at the place of its path or writes the
file to which its path leads.  A file that is created only where nothing was found
is created at the place itself, and never behind a link.
-/

namespace HostHome.FileSystem

open HostHome.Text (Bytes)

variable {files later : FileSystem} {links left : Nat} {place location directory : Location}
  {steps : List Step} {path base : Path} {name content : Bytes}

/-- Who walks to a file in order to write it has no slash behind its name. -/
theorem slashed_eq_false_of_walk_vacant {slashed : Bool}
    (reached : files.walk true links place steps = .ok (.vacant directory name slashed)) :
    slashed = false := by
  fun_induction walk files true links place steps with
  | case1 | case2 | case5 | case7 | case8 | case9 | case10 | case12 | case13 => cases reached
  | case3 _ _ _ _ ih => exact ih reached
  | case4 _ _ _ _ ih => exact ih reached
  | case6 _ _ _ _ ih => exact ih reached
  | case11 links place own rest _ unslashed _ _ last =>
      cases reached
      simpa [last] using unslashed
  | case14 _ _ _ _ _ _ _ _ _ _ ih => exact ih reached
  | case15 _ _ _ _ _ _ _ _ _ _ ih => exact ih reached

theorem isDirectoryAt_tail (isDirectory : files.isDirectoryAt place) :
    files.isDirectoryAt place.tail := by
  cases place with
  | nil => exact isDirectory
  | cons own above =>
      unfold isDirectoryAt at isDirectory
      obtain ⟨entry, found, _⟩ := Option.any_eq_true .. |>.1 isDirectory
      exact isDirectoryAt_of_entryAt? found

/-- A slash that is met on the way to a file is met in a directory, unless there were only
slashes. -/
theorem isDirectoryAt_of_walk_slashed
    (reached : files.walk true links place steps = .ok (.entry location true)) :
    files.isDirectoryAt location ∨ (location = place ∧ steps.all (· = .slash)) := by
  have root : files.isDirectoryAt [] := by
    simp [isDirectoryAt, entryAt?, entryAmong, Entry.isDirectory]
  fun_induction walk files true links place steps with
  | case1 | case5 | case7 | case8 | case9 | case10 | case11 | case12 | case13 => cases reached
  | case2 links place => cases reached; exact .inr ⟨rfl, rfl⟩
  | case3 links place rest more ih =>
      rcases ih reached with isDirectory | ⟨rfl, all⟩
      · exact .inl isDirectory
      · exact .inr ⟨rfl, by simpa using all⟩
  | case4 links place rest within ih =>
      rcases ih reached with isDirectory | ⟨rfl, _⟩
      · exact .inl isDirectory
      · exact .inl within
  | case6 links place rest within ih =>
      rcases ih reached with isDirectory | ⟨rfl, _⟩
      · exact .inl isDirectory
      · exact .inl (isDirectoryAt_tail within)
  | case14 place own rest within _ _ inode target found links ih =>
      rcases ih reached with isDirectory | ⟨rfl, _⟩
      · exact .inl isDirectory
      · left
        unfold startOf
        split
        · exact root
        · simpa using within
  | case15 links place own rest within unslashed _ entry direct found ih =>
      rcases ih reached with isDirectory | ⟨rfl, all⟩
      · exact .inl isDirectory
      · have none : rest = [] := by simpa [all] using unslashed
        subst none
        simp [walk] at reached

theorem Walks.fill {spot : Spot} (walks : Walks files links place steps left spot)
    (free : spot = .vacant directory name false) (grows : Grows files later)
    {inode permissions : Nat}
    (found : later.entryAt? (name :: directory) = some (.file inode permissions content)) :
    Walks later links place steps left (.entry (name :: directory) false) := by
  induction walks with
  | arrive | arriveSlashed => cases free
  | slash more walks ih => exact .slash more (ih free)
  | stay within walks ih => exact .stay (grows.isDirectoryAt within) (ih free)
  | up within walks ih => exact .up (grows.isDirectoryAt within) (ih free)
  | @vacant links place own rest within short vacant last =>
      simp only [Spot.vacant.injEq, Bool.not_eq_eq_eq_not, Bool.not_false,
        List.isEmpty_iff] at free
      obtain ⟨rfl, rfl, rfl⟩ := free
      exact .enter (grows.isDirectoryAt within) short found (by simp) (.arrive links _)
  | enter within short present direct walks ih =>
      obtain ⟨now, presentNow, directNow⟩ := grows.exists_direct present direct
      exact .enter (grows.isDirectoryAt within) short presentNow directNow (ih free)
  | follow within short present walks ih =>
      exact .follow (grows.isDirectoryAt within) short (grows.symbolicLink present) (ih free)

theorem follow_eq_ok_iff {writing : Bool} {spot : Spot} :
    files.follow writing path = .ok spot ↔
      checkPath path = .ok () ∧
        files.walk writing linkLimit (startOf files.current path) path.steps = .ok spot := by
  cases accepted : checkPath path with
  | error error => simp [follow, accepted, bind, Except.bind]
  | ok _ => simp [follow, accepted, bind, Except.bind]

/-- The file that is created where there was no entry is a new entry at the place. -/
theorem placedAt_of_touch (ordinary : OrdinaryName name)
    (absent : files.hasEntry (base.join ⟨name⟩) = false)
    (touched : files.touch (base.join ⟨name⟩) = .ok later) :
    ∃ directory, files.PlacedAt (base.join ⟨name⟩) directory name ∧
      files.entryAt? (name :: directory) = none ∧
      later = files.add directory name (.file files.freshInode filePermissions []) := by
  cases followed : files.follow true (base.join ⟨name⟩) with
  | error error => simp [touch, writeFile, followed, bind, Except.bind] at touched
  | ok spot =>
      obtain ⟨accepted, walked⟩ := follow_eq_ok_iff.1 followed
      rw [Path.steps_joinName ordinary, Path.startOf_joinName ordinary] at walked
      obtain ⟨_, walks⟩ := exists_walks walked
      obtain ⟨middle, directory, slashed, first, second⟩ := walks.split rfl (by simp)
      have placed (within : files.isDirectoryAt directory) (short : name.length ≤ nameLimit) :
          files.PlacedAt (base.join ⟨name⟩) directory name := by
        rw [placedAt_joinName_iff ordinary]
        exact ⟨accepted, rfl, short,
          walkToDirectory_eq_ok_iff.2 ⟨within, middle, slashed, first⟩⟩
      have noEntry {entry : Entry} (within : files.isDirectoryAt directory)
          (short : name.length ≤ nameLimit) :
          files.entryAt? (name :: directory) ≠ some entry := by
        intro found
        have has := (hasEntry_joinName_iff ordinary).2
          ⟨directory, entry, placed within short, found⟩
        rw [absent] at has
        cases has
      cases second with
      | vacant within short free last =>
          refine ⟨directory, placed within short, free, ?_⟩
          simpa [touch, writeFile, followed, bind, Except.bind, pure, Except.pure, eq_comm]
            using touched
      | enter within short found => exact absurd found (noEntry within short)
      | follow within short found => exact absurd found (noEntry within short)

/-- A file is written only where its path leads. -/
theorem permits_writeFile {allowance : Allowance} (ordinary : OrdinaryName name)
    (writes : allowance.writes (base.join ⟨name⟩))
    (written : files.writeFile (base.join ⟨name⟩) content = .ok later) :
    allowance.Permits files later := by
  cases followed : files.follow true (base.join ⟨name⟩) with
  | error error => simp [writeFile, followed, bind, Except.bind] at written
  | ok spot =>
      obtain ⟨accepted, walked⟩ := follow_eq_ok_iff.1 followed
      obtain ⟨left, walks⟩ := exists_walks walked
      simp only [writeFile, followed, bind, Except.bind, pure, Except.pure] at written
      cases spot with
      | vacant directory own slashed =>
          obtain rfl := slashed_eq_false_of_walk_vacant walked
          obtain ⟨within, _, free⟩ := walks.vacancy
          cases written
          have grows := grows_add files directory own
            (.file files.freshInode filePermissions content)
          have present :=
            entryAt?_add_self (.file files.freshInode filePermissions content) within free
          apply Allowance.permits_add_of_find within free writes
          refine find_eq_ok_iff.2 ⟨accepted, present, left, false, ?_, by simp⟩
          rw [grows.startOf_current]
          exact walks.fill rfl grows present
      | entry place slashed =>
          cases present : files.entryAt? place with
          | none => simp [present] at written
          | some entry =>
              cases entry with
              | directory | symbolicLink => simp [present] at written
              | file inode permissions old =>
                  simp only [present] at written
                  cases written
                  have direct : slashed = false := by
                    cases slashed with
                    | false => rfl
                    | true =>
                        have ends := isDirectoryAt_of_walk_slashed walked
                        simp [isDirectoryAt, present, Entry.isDirectory,
                          Path.steps_joinName ordinary] at ends
                  refine Allowance.permits_setContent content writes
                    (find_eq_ok_iff.2 ⟨accepted, present, left, slashed, walks, ?_⟩)
                  simp [direct]

theorem placedAt_of_makeDirectory (made : files.makeDirectory path = .ok later) :
    ∃ directory name, files.PlacedAt path directory name ∧
      files.entryAt? (name :: directory) = none ∧
      later = files.add directory name (.directory directoryPermissions) := by
  unfold makeDirectory at made
  cases free : files.placeFor path true with
  | error error => simp [free, bind, Except.bind] at made
  | ok place =>
      obtain ⟨placed, vacant⟩ := placedAt_of_placeFor free
      refine ⟨place.1, place.2, placed, vacant, ?_⟩
      simpa [free, bind, Except.bind, pure, Except.pure, eq_comm] using made

end HostHome.FileSystem

namespace HostHome.Link

open HostHome.Text (Bytes)
open HostHome.FileSystem

variable {files later : FileSystem} {link : Link}

theorem placedAt_of_makeSymbolicLink {target path : Path}
    (made : files.makeSymbolicLink target path = .ok later) :
    ∃ directory name, files.PlacedAt path directory name ∧
      files.entryAt? (name :: directory) = none ∧
      later = files.add directory name (.symbolicLink files.freshInode target) := by
  unfold makeSymbolicLink at made
  split at made
  · cases made
  · cases accepted : checkPath target with
    | error error => simp [accepted, bind, Except.bind] at made
    | ok _ =>
        cases free : files.placeFor path false with
        | error error => simp [accepted, free, bind, Except.bind] at made
        | ok place =>
            obtain ⟨placed, vacant⟩ := placedAt_of_placeFor free
            refine ⟨place.1, place.2, placed, vacant, ?_⟩
            simpa [accepted, free, bind, Except.bind, pure, Except.pure, eq_comm] using made

theorem placedAt_of_makeHardLink {source path : Path}
    (made : files.makeHardLink source path = .ok later) :
    ∃ directory name entry, files.PlacedAt path directory name ∧
      files.entryAt? (name :: directory) = none ∧
      later = files.add directory name entry ∧ entry.isDirectory = false ∧
      ∃ location, files.findLink source = .ok (location, entry) := by
  unfold makeHardLink at made
  split at made
  · cases made
  · cases found : files.findLink source with
    | error error => simp [found, bind, Except.bind] at made
    | ok sourcePlace =>
        cases free : files.placeFor path false with
        | error error => simp [found, free, bind, Except.bind] at made
        | ok place =>
            obtain ⟨placed, vacant⟩ := placedAt_of_placeFor free
            simp only [found, free, bind, Except.bind, pure, Except.pure] at made
            split at made
            · cases made
            · next noDirectory =>
                exact ⟨place.1, place.2, sourcePlace.2, placed, vacant,
                  (Except.ok.inj made).symm, by simpa using noDirectory, sourcePlace.1, rfl⟩

theorem ok_of_mapError {cause : SystemError → Cause} {result : Except SystemError FileSystem}
    (mapped : result.mapError cause = .ok later) : result = .ok later := by
  cases result with
  | error error => cases mapped
  | ok files => cases mapped; rfl

/-- A link that is created is a new entry at the place of its destination. A symbolic link holds
its source as it is spelled, and a hard link is the entry that is found there. -/
theorem placedAt_of_apply (applied : link.apply files = .ok later) :
    ∃ directory name entry, files.PlacedAt link.destination directory name ∧
      files.entryAt? (name :: directory) = none ∧
      later = files.add directory name entry ∧
      (link.kind = .symbolic → entry = .symbolicLink files.freshInode link.source) ∧
      (link.kind = .hard → entry.isDirectory = false ∧
        ∃ location, files.findLink link.source = .ok (location, entry)) := by
  unfold apply at applied
  cases kind : link.kind with
  | symbolic =>
      rw [kind] at applied
      obtain ⟨directory, name, placed, vacant, rfl⟩ :=
        placedAt_of_makeSymbolicLink (ok_of_mapError applied)
      exact ⟨directory, name, _, placed, vacant, rfl, fun _ => rfl, by simp⟩
  | hard =>
      rw [kind] at applied
      obtain ⟨directory, name, entry, placed, vacant, rfl, found⟩ :=
        placedAt_of_makeHardLink (ok_of_mapError applied)
      exact ⟨directory, name, entry, placed, vacant, rfl, by simp, fun _ => found⟩

theorem state_eq_missing_iff :
    link.state files = .missing ↔ files.hasEntry link.destination = false := by
  unfold state hasEntry
  cases found : files.findLink link.destination with
  | error error => simp [Except.isOk, Except.toBool]
  | ok place =>
      simp only [Except.isOk, Except.toBool]
      split
      · split
        · split <;> simp
        · simp
      · split <;> simp

theorem ensure_eq_ok {change : LinkChange} (ensured : link.ensure files = .ok (change, later)) :
    (files.hasEntry link.destination ∧ later = files) ∨
      (files.hasEntry link.destination = false ∧ link.apply files = .ok later) := by
  have present (other : link.state files ≠ .missing) : files.hasEntry link.destination := by
    cases has : files.hasEntry link.destination with
    | true => rfl
    | false => exact absurd (state_eq_missing_iff.2 has) other
  unfold ensure at ensured
  split at ensured
  · next missing =>
      right
      refine ⟨state_eq_missing_iff.1 missing, ?_⟩
      cases applied : link.apply files with
      | error cause => simp [applied, bind, Except.bind] at ensured
      | ok after =>
          simp only [applied, bind, Except.bind, pure, Except.pure, Except.ok.injEq,
            Prod.mk.injEq] at ensured
          rw [ensured.2]
  · next correct =>
      cases ensured
      exact .inl ⟨present (by simp [correct]), rfl⟩
  · next occupied =>
      cases ensured
      exact .inl ⟨present (by simp [occupied]), rfl⟩

theorem ensure_eq_self {change : LinkChange} (ensured : link.ensure files = .ok (change, later))
    (other : change ≠ .applied) : later = files := by
  unfold ensure at ensured
  split at ensured
  · cases applied : link.apply files with
    | error cause => simp [applied, bind, Except.bind] at ensured
    | ok after =>
        simp only [applied, bind, Except.bind, pure, Except.pure, Except.ok.injEq,
          Prod.mk.injEq] at ensured
        exact absurd ensured.1.symm other
  · cases ensured; rfl
  · cases ensured; rfl

end HostHome.Link
