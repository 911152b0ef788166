import HostHome.Proofs.FileSystem.Writing

/-!
# Links that are correct

A link that was created is correct, and it stays correct while the files grow: its
destination and its source are found again at the same locations, with the same
targets and inodes.
-/

namespace HostHome.Link

open HostHome.FileSystem
open HostHome.Text (Bytes)

variable {files later : FileSystem} {link : Link} {location : Location} {entry : Entry}

theorem isSameFile_of_shape {now other otherNow : Entry} {otherLocation : Location}
    (same : now.shape = entry.shape) (sameOther : otherNow.shape = other.shape) :
    isSameFile location now otherLocation otherNow =
      isSameFile location entry otherLocation other := by
  unfold isSameFile
  rw [Entry.inode?_of_shape same, Entry.inode?_of_shape sameOther]

/-- A link is correct if its destination is a symbolic link that holds the source, or the file at
the source. -/
theorem state_eq_correct_iff :
    link.state files = .correct ↔ ∃ location entry,
      files.findLink link.destination = .ok (location, entry) ∧
      match link.kind with
      | .symbolic => ∃ inode target, entry = .symbolicLink inode target ∧
          target.sameAs link.source
      | .hard => ∃ other source, files.findLink link.source = .ok (other, source) ∧
          isSameFile location entry other source := by
  unfold state sharesFile
  cases found : files.findLink link.destination with
  | error error => simp
  | ok place =>
      obtain ⟨location, entry⟩ := place
      cases kind : link.kind with
      | symbolic =>
          cases entry with
          | directory | file => simp
          | symbolicLink inode target =>
              by_cases same : target.sameAs link.source
              · simp only [same, if_true, true_iff]
                exact ⟨location, _, rfl, inode, target, rfl, same⟩
              · simp [same]
      | hard =>
          cases source : files.findLink link.source with
          | error error => simp
          | ok sourcePlace =>
              obtain ⟨other, there⟩ := sourcePlace
              by_cases same : isSameFile location entry other there
              · simp only [same, if_true, true_iff]
                exact ⟨location, entry, rfl, _, _, rfl, same⟩
              · simp [same]

theorem state_eq_correct_of_grows (grows : Grows files later)
    (correct : link.state files = .correct) : link.state later = .correct := by
  rw [state_eq_correct_iff] at correct ⊢
  obtain ⟨location, entry, found, fits⟩ := correct
  obtain ⟨now, foundNow, _, same⟩ := grows.findLink found
  refine ⟨location, now, foundNow, ?_⟩
  cases kind : link.kind with
  | symbolic =>
      simp only [kind] at fits ⊢
      obtain ⟨inode, target, rfl, holds⟩ := fits
      exact ⟨inode, target, Entry.shape_eq_symbolicLink_iff.1 same, holds⟩
  | hard =>
      simp only [kind] at fits ⊢
      obtain ⟨other, source, foundSource, shared⟩ := fits
      obtain ⟨sourceNow, foundSourceNow, _, sameSource⟩ := grows.findLink foundSource
      refine ⟨other, sourceNow, foundSourceNow, ?_⟩
      rwa [isSameFile_of_shape same sameSource]

theorem endsWithSlash_of_placeFor {path : Path} {place : Location × Bytes}
    (free : files.placeFor path false = .ok place) : path.endsWithSlash = false := by
  obtain ⟨placed, vacant⟩ := placedAt_of_placeFor free
  rw [placed.placeFor_eq, vacant] at free
  cases slashed : path.endsWithSlash with
  | false => rfl
  | true => simp [slashed] at free

/-- No link is created at a path with a slash at its end. -/
theorem endsWithSlash_of_apply (applied : link.apply files = .ok later) :
    link.destination.endsWithSlash = false := by
  cases free : files.placeFor link.destination false with
  | ok place => exact endsWithSlash_of_placeFor free
  | error error =>
      unfold apply at applied
      cases kind : link.kind with
      | symbolic =>
          rw [kind] at applied
          have made := ok_of_mapError applied
          unfold makeSymbolicLink at made
          split at made
          · cases made
          · cases accepted : checkPath link.source <;>
              simp [accepted, free, bind, Except.bind] at made
      | hard =>
          rw [kind] at applied
          have made := ok_of_mapError applied
          unfold makeHardLink at made
          split at made
          · cases made
          · cases source : files.findLink link.source <;>
              simp [source, free, bind, Except.bind] at made

theorem state_eq_correct_of_apply (applied : link.apply files = .ok later) :
    link.state later = .correct := by
  obtain ⟨directory, name, entry, placed, vacant, rfl, symbolic, hard⟩ :=
    placedAt_of_apply applied
  obtain ⟨placedLater, present⟩ := placed.add vacant entry
  rw [state_eq_correct_iff]
  refine ⟨name :: directory, entry,
    placedLater.findLink_eq_ok (endsWithSlash_of_apply applied) present, ?_⟩
  cases kind : link.kind with
  | symbolic => exact ⟨_, _, symbolic kind, by simp [Path.sameAs]⟩
  | hard =>
      obtain ⟨noDirectory, location, found⟩ := hard kind
      obtain ⟨inode, numbered⟩ := Entry.exists_inode? noDirectory
      refine ⟨location, entry, ?_, by simp [isSameFile, numbered]⟩
      exact (grows_add files directory name entry).findLink_of_kept found
        (entryAt?_add_of_some (entryAt?_of_findLink found))

/-- A link that was made sure of is correct, unless its place is taken. -/
theorem state_eq_correct_of_ensure {change : LinkChange}
    (ensured : link.ensure files = .ok (change, later))
    (unskipped : ∀ occupant, change ≠ .skipped occupant) : link.state later = .correct := by
  unfold ensure at ensured
  split at ensured
  · cases applied : link.apply files with
    | error cause => simp [applied, bind, Except.bind] at ensured
    | ok after =>
        simp only [applied, bind, Except.bind, pure, Except.pure, Except.ok.injEq,
          Prod.mk.injEq] at ensured
        rw [← ensured.2]
        exact state_eq_correct_of_apply applied
  · next correct => cases ensured; exact correct
  · next occupant _ => cases ensured; exact absurd rfl (unskipped occupant)

theorem ensure_of_correct (correct : link.state files = .correct) :
    link.ensure files = .ok (.alreadyCorrect, files) := by
  unfold ensure
  rw [correct]

end HostHome.Link
