import HostHome.FileSystem.Change
import HostHome.Proofs.FileSystem.Walking

/-!
# File systems that grow

A file system has grown if every entry is still there, perhaps with another
content.  What a path led to before, it leads to afterwards: a walk that arrives
takes the same way again.
-/

namespace HostHome

open HostHome.Text (Bytes)

/-- All of an entry but its content. -/
def Entry.shape : Entry → Entry
  | directory permissions => directory permissions
  | symbolicLink inode target => symbolicLink inode target
  | file inode permissions _ => file inode permissions []

namespace Entry

theorem isDirectory_of_shape {entry other : Entry} (same : other.shape = entry.shape) :
    other.isDirectory = entry.isDirectory := by
  cases entry <;> cases other <;> simp_all [shape, isDirectory]

theorem inode?_of_shape {entry other : Entry} (same : other.shape = entry.shape) :
    other.inode? = entry.inode? := by
  cases entry <;> cases other <;> simp_all [shape, inode?]

theorem exists_inode? {entry : Entry} (noDirectory : entry.isDirectory = false) :
    ∃ inode, entry.inode? = some inode := by
  cases entry with
  | directory => cases noDirectory
  | symbolicLink inode => exact ⟨inode, rfl⟩
  | file inode => exact ⟨inode, rfl⟩

theorem eq_of_shape_of_isDirectory {entry other : Entry} (same : other.shape = entry.shape)
    (isDirectory : entry.isDirectory) : other = entry := by
  cases entry with
  | directory permissions => cases other <;> simp_all [shape]
  | symbolicLink | file => cases isDirectory

theorem shape_eq_symbolicLink_iff {entry : Entry} {inode : Nat} {target : Path} :
    entry.shape = .symbolicLink inode target ↔ entry = .symbolicLink inode target := by
  cases entry <;> simp [shape]

theorem shape_withContent (inode : Nat) (content : Bytes) (entry : Entry) :
    (FileSystem.Entry.withContent inode content entry).shape = entry.shape := by
  cases entry with
  | directory | symbolicLink => rfl
  | file own permissions old =>
      simp only [FileSystem.Entry.withContent]
      split <;> rfl

end Entry

namespace FileSystem

/-- Every entry of a file system is still there later, and only contents may differ. -/
structure Grows (files later : FileSystem) : Prop where
  current : later.current = files.current
  kept : ∀ {location : Location} {entry : Entry}, files.entryAt? location = some entry →
    ∃ now, later.entryAt? location = some now ∧ now.shape = entry.shape

variable {files middle later : FileSystem}

theorem Grows.refl (files : FileSystem) : Grows files files :=
  ⟨rfl, fun found => ⟨_, found, rfl⟩⟩

theorem Grows.trans (first : Grows files middle) (second : Grows middle later) :
    Grows files later := by
  refine ⟨second.current.trans first.current, fun found => ?_⟩
  obtain ⟨between, found, sameFirst⟩ := first.kept found
  obtain ⟨now, found, sameSecond⟩ := second.kept found
  exact ⟨now, found, sameSecond.trans sameFirst⟩

theorem current_add (directory : Location) (name : Bytes) (entry : Entry) :
    (files.add directory name entry).current = files.current := by
  unfold add
  split <;> rfl

theorem entryAt?_add_of_some {directory location : Location} {name : Bytes} {entry found : Entry}
    (present : files.entryAt? location = some found) :
    (files.add directory name entry).entryAt? location = some found := by
  unfold add
  split
  · next free =>
      have different : location ≠ name :: directory := by
        rintro rfl
        unfold entryAt? at present
        simp [free.2] at present
      exact (entryAmong_cons_of_ne different).trans present
  · exact present

theorem entryAt?_add_self {directory : Location} {name : Bytes} (entry : Entry)
    (within : files.isDirectoryAt directory) (vacant : files.entryAt? (name :: directory) = none) :
    (files.add directory name entry).entryAt? (name :: directory) = some entry := by
  rw [entryAt?_add within vacant, if_pos rfl]

theorem grows_add (files : FileSystem) (directory : Location) (name : Bytes) (entry : Entry) :
    Grows files (files.add directory name entry) :=
  ⟨current_add directory name entry, fun found => ⟨_, entryAt?_add_of_some found, rfl⟩⟩

theorem grows_setContent (files : FileSystem) (inode : Nat) (content : Bytes) :
    Grows files (files.setContent inode content) := by
  refine ⟨rfl, fun {location entry} found => ?_⟩
  refine ⟨_, ?_, Entry.shape_withContent inode content entry⟩
  rw [entryAt?_setContent, found]
  rfl

theorem Grows.isDirectoryAt (grows : Grows files later) {location : Location}
    (isDirectory : files.isDirectoryAt location) : later.isDirectoryAt location := by
  unfold FileSystem.isDirectoryAt at isDirectory ⊢
  obtain ⟨entry, found, isDirectory⟩ := Option.any_eq_true .. |>.1 isDirectory
  obtain ⟨now, foundNow, same⟩ := grows.kept found
  simp [foundNow, Entry.isDirectory_of_shape same, isDirectory]

theorem Grows.symbolicLink (grows : Grows files later) {location : Location} {inode : Nat}
    {target : Path} (found : files.entryAt? location = some (.symbolicLink inode target)) :
    later.entryAt? location = some (.symbolicLink inode target) := by
  obtain ⟨now, foundNow, same⟩ := grows.kept found
  rw [foundNow, Entry.shape_eq_symbolicLink_iff.1 same]

theorem Grows.exists_direct (grows : Grows files later) {location : Location} {entry : Entry}
    (found : files.entryAt? location = some entry)
    (direct : ∀ inode target, entry ≠ .symbolicLink inode target) :
    ∃ now, later.entryAt? location = some now ∧
      ∀ inode target, now ≠ .symbolicLink inode target := by
  obtain ⟨now, foundNow, same⟩ := grows.kept found
  refine ⟨now, foundNow, ?_⟩
  rintro inode target rfl
  exact direct inode target (Entry.shape_eq_symbolicLink_iff.1 same.symm)

theorem Grows.walks (grows : Grows files later) {links left : Nat} {place location : Location}
    {steps : List Step} {slashed : Bool}
    (walks : Walks files links place steps left (.entry location slashed)) :
    Walks later links place steps left (.entry location slashed) := by
  generalize reached : Spot.entry location slashed = spot at walks ⊢
  induction walks with
  | arrive links place => exact .arrive links place
  | arriveSlashed links place => exact .arriveSlashed links place
  | slash more walks ih => exact .slash more (ih reached)
  | stay within walks ih => exact .stay (grows.isDirectoryAt within) (ih reached)
  | up within walks ih => exact .up (grows.isDirectoryAt within) (ih reached)
  | vacant => cases reached
  | enter within short found direct walks ih =>
      obtain ⟨now, foundNow, directNow⟩ := grows.exists_direct found direct
      exact .enter (grows.isDirectoryAt within) short foundNow directNow (ih reached)
  | follow within short found walks ih =>
      exact .follow (grows.isDirectoryAt within) short (grows.symbolicLink found) (ih reached)

end FileSystem

end HostHome
