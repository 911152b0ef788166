import HostHome.Proofs.FileSystem.Places
import HostHome.Proofs.Path.Components

/-!
# Directories above a place

A path that leads to a directory leads through the directories above it.  This
holds for each beginning of the path, and also for the paths that are spelled from
its first components, though the dots are left out there.
-/

namespace HostHome.FileSystem

open HostHome.Text (Bytes)

variable {files : FileSystem} {path base upper : Path} {directory location : Location}
  {name : Bytes} {entry : Entry}

theorem startOf_of_isAbsolute (place : Location) (same : upper.isAbsolute = path.isAbsolute) :
    startOf place upper = startOf place path := by
  unfold startOf
  rw [same]

/-- Whatever a path leads to, its beginnings lead to directories. -/
theorem exists_walkToDirectory_of_append {place : Location} {steps rest all : List Step}
    (reached : files.walkToDirectory place all = .ok location) (joined : all = steps ++ rest)
    (inner : Step.slash ∉ rest) :
    ∃ directory, files.walkToDirectory place steps = .ok directory := by
  cases rest with
  | nil =>
      rw [List.append_nil] at joined
      exact ⟨location, joined ▸ reached⟩
  | cons step rest =>
      obtain ⟨_, _, _, walks⟩ := walkToDirectory_eq_ok_iff.1 reached
      have further : ¬ (step :: rest).all (· = .slash) := by
        rw [List.all_cons, Bool.and_eq_true, decide_eq_true_iff]
        rintro ⟨rfl, _⟩
        simp at inner
      obtain ⟨middle, directory, slashed, first, second⟩ := walks.split joined further
      refine ⟨directory, walkToDirectory_eq_ok_iff.2 ⟨?_, middle, slashed, first⟩⟩
      cases second with
      | arriveSlashed | slash => simp at inner
      | stay within | up within | enter within | follow within => exact within

theorem LeadsInto.above (leads : files.LeadsInto path directory) {rest : List Step}
    (start : upper.isAbsolute = path.isAbsolute) (joined : path.course = upper.course ++ rest) :
    ∃ directory, files.LeadsInto upper directory := by
  unfold LeadsInto at leads ⊢
  rw [startOf_of_isAbsolute _ start]
  apply exists_walkToDirectory_of_append leads joined
  intro member
  apply Path.slash_notMem_course path
  rw [joined]
  exact List.mem_append_right _ member

theorem course_of_splitName? {before : List Step}
    (split : splitName? path.course = some (before, name)) :
    path.course = before ++ [.name name] := by
  unfold splitName? at split
  split at split
  · next last =>
      cases split
      obtain ⟨front, spelled⟩ := List.getLast?_eq_some_iff.1 last
      simp [spelled]
  · cases split

theorem LeadsInto.exists_placedAt (leads : files.LeadsInto path location)
    (accepted : checkPath path = .ok ()) {before : List Step}
    (split : splitName? path.course = some (before, name)) :
    ∃ directory entry, files.PlacedAt path directory name ∧
      files.entryAt? (name :: directory) = some entry := by
  have joined := course_of_splitName? split
  obtain ⟨directory, reached⟩ := exists_walkToDirectory_of_append leads joined (by simp)
  unfold LeadsInto at leads
  obtain ⟨_, _, _, walks⟩ := walkToDirectory_eq_ok_iff.1 leads
  obtain ⟨_, _, _, walksBefore⟩ := walkToDirectory_eq_ok_iff.1 reached
  obtain ⟨middle, between, _, first, second⟩ := walks.split joined (by simp)
  obtain ⟨rfl, same⟩ := first.unique walksBefore
  cases same
  cases second with
  | enter _ short found => exact ⟨_, _, ⟨accepted, ⟨before, split, reached⟩, short⟩, found⟩
  | follow _ short found => exact ⟨_, _, ⟨accepted, ⟨before, split, reached⟩, short⟩, found⟩

theorem PlacedAt.leadsInto (placed : files.PlacedAt path directory name) {permissions : Nat}
    (found : files.entryAt? (name :: directory) = some (.directory permissions)) :
    files.LeadsInto path (name :: directory) := by
  obtain ⟨_, ⟨before, split, reached⟩, short⟩ := placed
  have joined := course_of_splitName? split
  obtain ⟨within, left, _, walks⟩ := walkToDirectory_eq_ok_iff.1 reached
  have isDirectory : files.isDirectoryAt (name :: directory) := by
    simp [FileSystem.isDirectoryAt, found, Entry.isDirectory]
  refine walkToDirectory_eq_ok_iff.2 ⟨isDirectory, left, false, ?_⟩
  rw [joined]
  have last : Walks files left directory [.name name] left (.entry (name :: directory) false) :=
    .enter within short found (by simp) (.arrive left _)
  exact walks.append last (by simp)

/-- The dots that the components of a path leave out do not matter. -/
theorem LeadsInto.ofComponents (leads : files.LeadsInto path directory)
    (some : path.components ≠ []) :
    files.LeadsInto (Path.ofComponents path.components) directory := by
  have spells := Path.spells_ofComponents (List.prefix_refl path.components) some
  have start : (Path.ofComponents path.components).isAbsolute = path.isAbsolute := by
    rw [Bool.eq_iff_iff, spells.absolute, Path.isAbsolute_iff_components]
  obtain ⟨front, back, course, straight⟩ := Path.exists_course_eq path
  unfold LeadsInto at leads ⊢
  rw [startOf_of_isAbsolute _ start, spells.course_eq, straight]
  rw [walkToDirectory_eq_ok_iff] at leads ⊢
  obtain ⟨isDirectory, left, slashed, walks⟩ := leads
  obtain ⟨stillSlashed, walks⟩ := walks.dropStays course
  exact ⟨isDirectory, left, stillSlashed, walks⟩

/-- The first components of a path that leads to a directory lead to a directory. -/
theorem LeadsInto.ofFirstComponents (leads : files.LeadsInto path directory)
    {first : List Component} (upper : first <+: path.components) (some : first ≠ []) :
    ∃ directory, files.LeadsInto (Path.ofComponents first) directory := by
  obtain ⟨rest, spelled⟩ := upper
  have all : path.components ≠ [] := by
    rw [← spelled]
    simp [some]
  have whole := leads.ofComponents all
  have spellsWhole := Path.spells_ofComponents (List.prefix_refl path.components) all
  have spells := Path.spells_ofComponents ⟨rest, spelled⟩ some
  refine whole.above ?_ (?_ : _ = _ ++ rest.filterMap Component.step?)
  · rw [Bool.eq_iff_iff, spells.absolute, spellsWhole.absolute, ← spelled, List.head?_append]
    obtain ⟨component, more, rfl⟩ := List.exists_cons_of_ne_nil some
    rfl
  · rw [spells.course_eq, spellsWhole.course_eq, ← List.filterMap_append, spelled]

theorem checkPath_ok_iff :
    checkPath path = .ok () ↔ 0 ∉ path.bytes ∧ path.bytes ≠ [] ∧ path.bytes.length ≤ pathLimit := by
  unfold checkPath Path.isEmpty
  by_cases zero : 0 ∈ path.bytes
  · simp [zero]
  · by_cases empty : path.bytes = []
    · simp [empty]
    · by_cases long : pathLimit < path.bytes.length
      · simp [zero, empty, long, Nat.not_le.2 long]
      · simp [zero, empty, long, Nat.not_lt.1 long]

theorem checkPath_of_join {next : Path} (relative : next.isAbsolute = false)
    (nonempty : base.bytes ≠ []) (accepted : checkPath (base.join next) = .ok ()) :
    checkPath base = .ok () := by
  obtain ⟨middle, _, bytes⟩ := Path.bytes_join base relative
  rw [checkPath_ok_iff] at accepted ⊢
  obtain ⟨noZero, _, short⟩ := accepted
  simp only [bytes, List.mem_append, not_or, List.length_append] at noZero short
  exact ⟨noZero.1.1, nonempty, by omega⟩

theorem checkPath_base (ordinary : OrdinaryName name) (nonempty : base.bytes ≠ [])
    (accepted : checkPath (base.join ⟨name⟩) = .ok ()) : checkPath base = .ok () :=
  checkPath_of_join (Path.isAbsolute_ofName ordinary) nonempty accepted

end HostHome.FileSystem
