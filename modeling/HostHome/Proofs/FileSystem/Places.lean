import HostHome.Proofs.FileSystem.Growth
import HostHome.Proofs.Path.Joining

/-!
# Places of paths

The place of a path is the directory to which its steps lead but for the last one,
and the name that is left.  New entries appear at places, and `findLink` looks at
them.  Paths keep their places while the files grow.
-/

namespace HostHome.FileSystem

open HostHome.Text (Bytes)

variable {files later : FileSystem} {path base : Path} {directory location : Location}
  {name : Bytes} {entry : Entry}

theorem walkToDirectory_eq_ok_iff {place : Location} {steps : List Step} :
    files.walkToDirectory place steps = .ok location ↔
      files.isDirectoryAt location ∧
        ∃ left slashed, Walks files linkLimit place steps left (.entry location slashed) := by
  unfold walkToDirectory
  constructor
  · intro reached
    cases walked : files.walk false linkLimit place steps with
    | error error => rw [walked] at reached; cases reached
    | ok spot =>
        rw [walked] at reached
        cases spot with
        | vacant => cases reached
        | entry found slashed =>
            simp only [bind, Except.bind] at reached
            split at reached
            · next isDirectory =>
                cases reached
                obtain ⟨left, walks⟩ := exists_walks walked
                exact ⟨isDirectory, left, slashed, walks⟩
            · cases reached
  · rintro ⟨isDirectory, left, slashed, walks⟩
    rw [walks.walk_eq]
    simp [bind, Except.bind, isDirectory]

theorem Grows.walkToDirectory (grows : Grows files later) {place : Location} {steps : List Step}
    (reached : files.walkToDirectory place steps = .ok location) :
    later.walkToDirectory place steps = .ok location := by
  rw [walkToDirectory_eq_ok_iff] at reached ⊢
  obtain ⟨isDirectory, left, slashed, walks⟩ := reached
  exact ⟨grows.isDirectoryAt isDirectory, left, slashed, grows.walks walks⟩

theorem Grows.startOf_current (grows : Grows files later) (path : Path) :
    startOf later.current path = startOf files.current path := by rw [grows.current]

/-- The path leads to a directory. -/
def LeadsInto (files : FileSystem) (path : Path) (directory : Location) : Prop :=
  files.walkToDirectory (startOf files.current path) path.course = .ok directory

theorem LeadsInto.unique {other : Location} (leads : files.LeadsInto path directory)
    (leadsOther : files.LeadsInto path other) : directory = other :=
  Except.ok.inj (leads.symm.trans leadsOther)

theorem LeadsInto.isDirectoryAt (leads : files.LeadsInto path directory) :
    files.isDirectoryAt directory :=
  (walkToDirectory_eq_ok_iff.1 leads).1

theorem Grows.leadsInto (grows : Grows files later) (leads : files.LeadsInto path directory) :
    later.LeadsInto path directory := by
  unfold LeadsInto at leads ⊢
  rw [grows.startOf_current]
  exact grows.walkToDirectory leads

/-- The place of the path is a name in a directory. -/
structure PlacedAt (files : FileSystem) (path : Path) (directory : Location) (name : Bytes) :
    Prop where
  accepted : checkPath path = .ok ()
  last : ∃ before, splitName? path.course = some (before, name) ∧
    files.walkToDirectory (startOf files.current path) before = .ok directory
  short : name.length ≤ nameLimit

theorem PlacedAt.isDirectoryAt (placed : files.PlacedAt path directory name) :
    files.isDirectoryAt directory := by
  obtain ⟨before, _, reached⟩ := placed.last
  exact (walkToDirectory_eq_ok_iff.1 reached).1

theorem Grows.placedAt (grows : Grows files later) (placed : files.PlacedAt path directory name) :
    later.PlacedAt path directory name := by
  obtain ⟨accepted, ⟨before, split, reached⟩, short⟩ := placed
  refine ⟨accepted, ⟨before, split, ?_⟩, short⟩
  rw [grows.startOf_current]
  exact grows.walkToDirectory reached

theorem PlacedAt.add (placed : files.PlacedAt path directory name)
    (vacant : files.entryAt? (name :: directory) = none) (entry : Entry) :
    (files.add directory name entry).PlacedAt path directory name ∧
      (files.add directory name entry).entryAt? (name :: directory) = some entry :=
  ⟨(grows_add files directory name entry).placedAt placed,
    entryAt?_add_self entry placed.isDirectoryAt vacant⟩

theorem splitName?_joinName (ordinary : OrdinaryName name) (base : Path) :
    splitName? (base.join ⟨name⟩).course = some (base.course, name) := by
  rw [Path.course_joinName ordinary]
  simp [splitName?]

/-- The place of a joined name lies in the directory to which its base leads. -/
theorem placedAt_joinName_iff (ordinary : OrdinaryName name) {last : Bytes} :
    files.PlacedAt (base.join ⟨name⟩) directory last ↔
      checkPath (base.join ⟨name⟩) = .ok () ∧ last = name ∧ name.length ≤ nameLimit ∧
        files.LeadsInto base directory := by
  have split := splitName?_joinName ordinary base
  unfold LeadsInto
  constructor
  · rintro ⟨accepted, ⟨before, spelled, reached⟩, short⟩
    cases split.symm.trans spelled
    rw [Path.startOf_joinName ordinary] at reached
    exact ⟨accepted, rfl, short, reached⟩
  · rintro ⟨accepted, rfl, short, reached⟩
    refine ⟨accepted, ⟨base.course, split, ?_⟩, short⟩
    rw [Path.startOf_joinName ordinary]
    exact reached

/-- A new entry can appear exactly at the free place of its path. -/
theorem PlacedAt.placeFor_eq (placed : files.PlacedAt path directory name) (slashAllowed : Bool) :
    files.placeFor path slashAllowed =
      if (files.entryAt? (name :: directory)).isSome then .error .occupied
      else if path.endsWithSlash && !slashAllowed then .error .absent
      else .ok (directory, name) := by
  obtain ⟨accepted, ⟨before, split, reached⟩, short⟩ := placed
  simp [placeFor, accepted, split, reached, bind, Except.bind, Nat.not_lt.2 short]

theorem placedAt_of_placeFor {slashAllowed : Bool}
    (free : files.placeFor path slashAllowed = .ok (directory, name)) :
    files.PlacedAt path directory name ∧ files.entryAt? (name :: directory) = none := by
  cases accepted : checkPath path with
  | error error => simp [placeFor, accepted, bind, Except.bind] at free
  | ok _ =>
      simp only [placeFor, accepted, bind, Except.bind, Path.withoutSlash_steps] at free
      split at free
      · cases walked : files.walkToDirectory (startOf files.current path) path.course.dropLast <;>
          simp [walked] at free
      · next before last split =>
          cases reached : files.walkToDirectory (startOf files.current path) before with
          | error error => simp [reached] at free
          | ok found =>
              simp only [reached] at free
              split at free
              · cases free
              · next short =>
                  split at free
                  · cases free
                  · next vacant =>
                      split at free
                      · cases free
                      · cases free
                        exact ⟨⟨accepted, ⟨before, split, reached⟩, Nat.not_lt.1 short⟩,
                          by simpa using vacant⟩

theorem PlacedAt.findLink_eq (placed : files.PlacedAt path directory name)
    (open_ : path.endsWithSlash = false) :
    files.findLink path =
      match files.entryAt? (name :: directory) with
      | none => .error .absent
      | some entry => .ok (name :: directory, entry) := by
  obtain ⟨accepted, ⟨before, split, reached⟩, short⟩ := placed
  have steps : path.steps = path.course := by simp [Path.steps_eq, open_]
  cases found : files.entryAt? (name :: directory) <;>
    simp [findLink, accepted, steps, split, reached, found, bind, Except.bind, Nat.not_lt.2 short]

theorem PlacedAt.findLink_eq_ok (placed : files.PlacedAt path directory name)
    (open_ : path.endsWithSlash = false) (found : files.entryAt? (name :: directory) = some entry) :
    files.findLink path = .ok (name :: directory, entry) := by
  rw [placed.findLink_eq open_, found]

theorem placedAt_of_findLink {before : List Step} {last : Bytes}
    (split : splitName? path.course = some (before, last)) (open_ : path.endsWithSlash = false)
    (found : files.findLink path = .ok (location, entry)) :
    ∃ directory, location = last :: directory ∧ files.PlacedAt path directory last ∧
      files.entryAt? (last :: directory) = some entry := by
  have steps : path.steps = path.course := by simp [Path.steps_eq, open_]
  cases accepted : checkPath path with
  | error error => simp [findLink, accepted, bind, Except.bind] at found
  | ok _ =>
      simp only [findLink, accepted, steps, split, bind, Except.bind] at found
      cases reached : files.walkToDirectory (startOf files.current path) before with
      | error error => simp [reached] at found
      | ok directory =>
          simp only [reached] at found
          split at found
          · cases found
          · next short =>
              split at found
              · cases found
              · next present =>
                  cases found
                  exact ⟨directory, rfl, ⟨accepted, ⟨before, split, reached⟩, Nat.not_lt.1 short⟩,
                    present⟩

theorem hasEntry_joinName_iff (ordinary : OrdinaryName name) :
    files.hasEntry (base.join ⟨name⟩) ↔
      ∃ directory entry, files.PlacedAt (base.join ⟨name⟩) directory name ∧
        files.entryAt? (name :: directory) = some entry := by
  have split := splitName?_joinName ordinary base
  have open_ := Path.endsWithSlash_joinName ordinary base
  unfold hasEntry
  constructor
  · intro has
    cases found : files.findLink (base.join ⟨name⟩) with
    | error error => rw [found] at has; cases has
    | ok place =>
        obtain ⟨directory, _, placed, present⟩ := placedAt_of_findLink split open_ found
        exact ⟨directory, place.2, placed, present⟩
  · rintro ⟨directory, entry, placed, present⟩
    rw [placed.findLink_eq_ok open_ present]
    rfl

theorem find_eq_ok_iff :
    files.find path = .ok (location, entry) ↔
      checkPath path = .ok () ∧ files.entryAt? location = some entry ∧
        ∃ left slashed, Walks files linkLimit (startOf files.current path) path.steps left
          (.entry location slashed) ∧ (slashed → entry.isDirectory) := by
  cases accepted : checkPath path with
  | error error => simp [find, follow, accepted, bind, Except.bind]
  | ok _ =>
      simp only [find, follow, accepted, bind, Except.bind, true_and]
      constructor
      · intro found
        cases walked : files.walk false linkLimit (startOf files.current path) path.steps with
        | error error => simp [walked] at found
        | ok spot =>
            obtain ⟨left, walks⟩ := exists_walks walked
            cases spot with
            | vacant => simp [walked] at found
            | entry reached slashed =>
                simp only [walked] at found
                split at found
                · cases found
                · next present =>
                    split at found
                    · cases found
                    · next fits =>
                        cases found
                        refine ⟨present, left, slashed, walks, fun isSlashed => ?_⟩
                        simpa [isSlashed] using fits
      · rintro ⟨present, left, slashed, walks, fits⟩
        simp only [walks.walk_eq, present]
        rw [if_neg]
        cases slashed with
        | false => simp
        | true => simp [fits rfl]

theorem Grows.find (grows : Grows files later) (found : files.find path = .ok (location, entry)) :
    ∃ now, later.find path = .ok (location, now) ∧ later.entryAt? location = some now ∧
      now.shape = entry.shape := by
  obtain ⟨accepted, present, left, slashed, walks, fits⟩ := find_eq_ok_iff.1 found
  obtain ⟨now, presentNow, same⟩ := grows.kept present
  refine ⟨now, find_eq_ok_iff.2 ⟨accepted, presentNow, left, slashed, ?_, ?_⟩, presentNow, same⟩
  · rw [grows.startOf_current]
    exact grows.walks walks
  · intro isSlashed
    rw [Entry.isDirectory_of_shape same]
    exact fits isSlashed

theorem Grows.findLink (grows : Grows files later)
    (found : files.findLink path = .ok (location, entry)) :
    ∃ now, later.findLink path = .ok (location, now) ∧ later.entryAt? location = some now ∧
      now.shape = entry.shape := by
  cases accepted : checkPath path with
  | error error => simp [FileSystem.findLink, accepted, bind, Except.bind] at found
  | ok _ =>
      simp only [FileSystem.findLink, accepted, bind, Except.bind] at found ⊢
      split at found
      · exact grows.find found
      · next before name split =>
          cases reached : files.walkToDirectory (startOf files.current path) before with
          | error error => simp [reached] at found
          | ok directory =>
              simp only [reached] at found
              split at found
              · cases found
              · next short =>
                  split at found
                  · cases found
                  · next present =>
                      cases found
                      obtain ⟨now, presentNow, same⟩ := grows.kept present
                      refine ⟨now, ?_, presentNow, same⟩
                      rw [grows.startOf_current, grows.walkToDirectory reached]
                      simp [short, presentNow]

theorem entryAt?_of_findLink (found : files.findLink path = .ok (location, entry)) :
    files.entryAt? location = some entry := by
  obtain ⟨now, foundNow, present, _⟩ := (Grows.refl files).findLink found
  cases found.symm.trans foundNow
  exact present

theorem Grows.findLink_of_kept (grows : Grows files later)
    (found : files.findLink path = .ok (location, entry))
    (kept : later.entryAt? location = some entry) :
    later.findLink path = .ok (location, entry) := by
  obtain ⟨now, foundNow, present, _⟩ := grows.findLink found
  rw [kept, Option.some.injEq] at present
  rw [foundNow, present]

theorem Grows.hasEntry (grows : Grows files later) (has : files.hasEntry path) :
    later.hasEntry path := by
  unfold FileSystem.hasEntry at has ⊢
  cases found : files.findLink path with
  | error error => rw [found] at has; cases has
  | ok place =>
      obtain ⟨now, foundNow, _⟩ := grows.findLink found
      rw [foundNow]
      rfl

theorem leadsInto_iff_find (accepted : checkPath path = .ok ()) :
    files.LeadsInto path directory ↔
      ∃ entry, files.find path = .ok (directory, entry) ∧ entry.isDirectory := by
  unfold LeadsInto
  rw [walkToDirectory_eq_ok_iff]
  constructor
  · rintro ⟨isDirectory, left, slashed, walks⟩
    unfold isDirectoryAt at isDirectory
    obtain ⟨entry, present, isDirectory⟩ := Option.any_eq_true .. |>.1 isDirectory
    refine ⟨entry, find_eq_ok_iff.2 ⟨accepted, present, ?_⟩, isDirectory⟩
    rw [Path.steps_eq]
    split
    · exact ⟨left, true, walks.addSlash, fun _ => isDirectory⟩
    · exact ⟨left, slashed, by simpa using walks, fun _ => isDirectory⟩
  · rintro ⟨entry, found, isDirectory⟩
    obtain ⟨_, present, left, slashed, walks, _⟩ := find_eq_ok_iff.1 found
    refine ⟨by simp [isDirectoryAt, present, isDirectory], ?_⟩
    rw [Path.steps_eq] at walks
    split at walks
    · obtain ⟨stillSlashed, walks⟩ := walks.dropSlash rfl
      exact ⟨left, stillSlashed, walks⟩
    · exact ⟨left, slashed, by simpa using walks⟩

theorem isDirectory_iff :
    files.isDirectory path ↔
      checkPath path = .ok () ∧ ∃ directory, files.LeadsInto path directory := by
  constructor
  · intro holds
    unfold isDirectory at holds
    cases found : files.find path with
    | error error => simp [found] at holds
    | ok place =>
        have accepted := (find_eq_ok_iff.1 found).1
        exact ⟨accepted, place.1, (leadsInto_iff_find accepted).2
          ⟨place.2, found, by simpa [found] using holds⟩⟩
  · rintro ⟨accepted, directory, leads⟩
    obtain ⟨entry, found, isDirectory⟩ := (leadsInto_iff_find accepted).1 leads
    simp [FileSystem.isDirectory, found, isDirectory]

theorem Grows.isDirectory (grows : Grows files later) (isDirectory : files.isDirectory path) :
    later.isDirectory path := by
  obtain ⟨accepted, directory, leads⟩ := isDirectory_iff.1 isDirectory
  exact isDirectory_iff.2 ⟨accepted, directory, grows.leadsInto leads⟩

end HostHome.FileSystem
