import HostHome.Proofs.FileSystem.Places

/-!
# What a run may write

An allowance says which entries may be created at which paths, and through which
paths files may be written.  Changes within an allowance keep every entry, its
kind, target, permissions and inode; they add up, and so whole runs can be judged
step by step.
-/

namespace HostHome.FileSystem

open HostHome.Text (Bytes)

structure Allowance where
  /-- The entry may be created at the path. A link at the end is not followed. -/
  creates : Path → Entry → Prop
  /-- The file to which the path leads may be created and written. -/
  writes : Path → Prop

namespace Allowance

variable {allowance wider : Allowance} {files middle later : FileSystem} {path : Path}
  {location directory : Location} {name : Bytes}

/-- The content of the inode may be written: an allowed path leads to a file of the inode. -/
def Rewrites (allowance : Allowance) (files : FileSystem) (inode : Nat) : Prop :=
  ∃ path location permissions content, allowance.writes path ∧
    files.find path = .ok (location, .file inode permissions content)

/-- What may have become of an entry: its content is another one only if it may be written. -/
def Becomes (allowance : Allowance) (later : FileSystem) (entry now : Entry) : Prop :=
  now.shape = entry.shape ∧
    (now = entry ∨ ∃ inode, entry.inode? = some inode ∧ allowance.Rewrites later inode)

structure Permits (allowance : Allowance) (files later : FileSystem) : Prop where
  current : later.current = files.current
  /-- Every entry is still there. -/
  kept : ∀ {location : Location} {entry : Entry}, files.entryAt? location = some entry →
    ∃ now, later.entryAt? location = some now ∧ allowance.Becomes later entry now
  /-- Every new entry was allowed. -/
  made : ∀ {location : Location} {now : Entry}, later.entryAt? location = some now →
    files.entryAt? location = none →
      (∃ path entry, allowance.creates path entry ∧
        later.findLink path = .ok (location, now) ∧ allowance.Becomes later entry now) ∨
      (∃ path, allowance.writes path ∧ later.find path = .ok (location, now))

theorem Becomes.refl (entry : Entry) : allowance.Becomes later entry entry := ⟨rfl, .inl rfl⟩

theorem Rewrites.grows (grows : Grows files later) {inode : Nat}
    (rewrites : allowance.Rewrites files inode) : allowance.Rewrites later inode := by
  obtain ⟨path, location, permissions, content, writes, found⟩ := rewrites
  obtain ⟨now, foundNow, _, same⟩ := grows.find found
  cases now with
  | file own ownPermissions newContent =>
      obtain ⟨rfl, rfl, _⟩ : own = inode ∧ ownPermissions = permissions ∧ True := by
        simpa [Entry.shape] using same
      exact ⟨path, location, _, newContent, writes, foundNow⟩
  | directory | symbolicLink => simp [Entry.shape] at same

theorem Becomes.trans (grows : Grows middle later) {entry between now : Entry}
    (first : allowance.Becomes middle entry between)
    (second : allowance.Becomes later between now) : allowance.Becomes later entry now := by
  obtain ⟨sameFirst, first⟩ := first
  obtain ⟨sameSecond, second⟩ := second
  refine ⟨sameSecond.trans sameFirst, ?_⟩
  rcases second with rfl | ⟨inode, own, rewrites⟩
  · rcases first with rfl | ⟨inode, own, rewrites⟩
    · exact .inl rfl
    · exact .inr ⟨inode, own, rewrites.grows grows⟩
  · exact .inr ⟨inode, (Entry.inode?_of_shape sameFirst) ▸ own, rewrites⟩

theorem Permits.grows (permits : allowance.Permits files later) : Grows files later := by
  refine ⟨permits.current, fun found => ?_⟩
  obtain ⟨now, foundNow, becomes⟩ := permits.kept found
  exact ⟨now, foundNow, becomes.1⟩

theorem Permits.refl (files : FileSystem) : allowance.Permits files files := by
  refine ⟨rfl, fun found => ⟨_, found, .refl _⟩, fun found absent => ?_⟩
  rw [absent] at found
  cases found

theorem Permits.trans (first : allowance.Permits files middle)
    (second : allowance.Permits middle later) : allowance.Permits files later := by
  have grows := second.grows
  refine ⟨second.current.trans first.current, ?_, ?_⟩
  · intro location entry found
    obtain ⟨between, found, becameFirst⟩ := first.kept found
    obtain ⟨now, found, becameSecond⟩ := second.kept found
    exact ⟨now, found, becameFirst.trans grows becameSecond⟩
  · intro location now found absent
    cases present : middle.entryAt? location with
    | none => exact second.made found present
    | some between =>
        obtain ⟨same, foundSame, becomes⟩ := second.kept present
        cases found.symm.trans foundSame
        rcases first.made present absent with
          ⟨path, entry, creates, reached, became⟩ | ⟨path, writes, reached⟩
        · obtain ⟨entryNow, reachedNow, foundNow, _⟩ := grows.findLink reached
          cases found.symm.trans foundNow
          exact .inl ⟨path, entry, creates, reachedNow, became.trans grows becomes⟩
        · obtain ⟨entryNow, reachedNow, foundNow, _⟩ := grows.find reached
          cases found.symm.trans foundNow
          exact .inr ⟨path, writes, reachedNow⟩

theorem Permits.mono (permits : allowance.Permits files later)
    (creates : ∀ path entry, allowance.creates path entry → wider.creates path entry)
    (writes : ∀ path, allowance.writes path → wider.writes path) : wider.Permits files later := by
  have becomes {entry now : Entry} (became : allowance.Becomes later entry now) :
      wider.Becomes later entry now := by
    refine ⟨became.1, became.2.imp_right ?_⟩
    rintro ⟨inode, own, path, location, permissions, content, allowed, found⟩
    exact ⟨inode, own, path, location, permissions, content, writes path allowed, found⟩
  refine ⟨permits.current, fun found => ?_, fun found absent => ?_⟩
  · obtain ⟨now, foundNow, became⟩ := permits.kept found
    exact ⟨now, foundNow, becomes became⟩
  · rcases permits.made found absent with
      ⟨path, entry, allowed, reached, became⟩ | ⟨path, allowed, reached⟩
    · exact .inl ⟨path, entry, creates path entry allowed, reached, becomes became⟩
    · exact .inr ⟨path, writes path allowed, reached⟩

theorem permits_add {entry : Entry} (placed : files.PlacedAt path directory name)
    (vacant : files.entryAt? (name :: directory) = none) (open_ : path.endsWithSlash = false)
    (creates : allowance.creates path entry) :
    allowance.Permits files (files.add directory name entry) := by
  have grows := grows_add files directory name entry
  refine ⟨grows.current, fun found => ?_, fun {location now} found absent => ?_⟩
  · exact ⟨_, entryAt?_add_of_some found, .refl _⟩
  · rw [entryAt?_add placed.isDirectoryAt vacant] at found
    split at found
    · next same =>
        cases found
        subst same
        obtain ⟨placedLater, present⟩ := placed.add vacant entry
        exact .inl ⟨path, entry, creates, placedLater.findLink_eq_ok open_ present, .refl _⟩
    · rw [absent] at found
      cases found

/-- A new entry to which an allowed path leads, be it through a link. -/
theorem permits_add_of_find {entry : Entry} (within : files.isDirectoryAt directory)
    (vacant : files.entryAt? (name :: directory) = none) (writes : allowance.writes path)
    (found : (files.add directory name entry).find path = .ok (name :: directory, entry)) :
    allowance.Permits files (files.add directory name entry) := by
  refine ⟨current_add .., fun old => ⟨_, entryAt?_add_of_some old, .refl _⟩, ?_⟩
  intro location now new absent
  rw [entryAt?_add within vacant] at new
  split at new
  · next same =>
      cases new
      exact .inr ⟨path, writes, same ▸ found⟩
  · rw [absent] at new
    cases new

/-- Another content of a file to which an allowed path leads. -/
theorem permits_setContent {inode permissions : Nat} {old : Bytes} (content : Bytes)
    (writes : allowance.writes path)
    (found : files.find path = .ok (location, .file inode permissions old)) :
    allowance.Permits files (files.setContent inode content) := by
  have grows := grows_setContent files inode content
  have rewrites : allowance.Rewrites files inode :=
    ⟨path, location, permissions, old, writes, found⟩
  refine ⟨rfl, fun {place entry} present => ?_, fun {place now} present absent => ?_⟩
  · refine ⟨_, by rw [entryAt?_setContent, present]; rfl, Entry.shape_withContent .., ?_⟩
    cases entry with
    | directory | symbolicLink => exact .inl rfl
    | file own ownPermissions ownContent =>
        by_cases same : own = inode
        · exact .inr ⟨inode, congrArg some same, rewrites.grows grows⟩
        · left
          simp [Entry.withContent, same]
  · rw [entryAt?_setContent, absent] at present
    cases present

end Allowance

end HostHome.FileSystem
