import HostHome.Path.Basic

/-!
# File systems

A file system is a tree of directories in which every other entry is a symbolic
link or a file. Entries are kept by their locations: the names that lead to them,
without dots and without links. What has a location lies in a directory, and this
is part of the type.

Two entries of one inode are the same file under two names. Whatever changes the
one changes the other.

Left out is what depends on who asks, and on where the entries are kept.
Permissions are never a reason to refuse a request, and there are no owners, no
groups and no access control lists. A new directory inherits nothing from the one
in which it lies, not even its set-group-ID bit. New directories and files have
the permissions that the usual mask leaves, and one mask holds for all who share
the files. No request fails for want of space or of inodes. Nothing is mounted,
so that a directory has one location only.
-/

namespace HostHome

open HostHome.Text (Bytes)

/-- Where an entry is: its name, then the name of its directory, and so on up to the root. The root
itself has no names. -/
abbrev Location := List Bytes

/-- What a location holds. -/
inductive Entry where
  | directory (permissions : Nat)
  | symbolicLink (inode : Nat) (target : Path)
  | file (inode permissions : Nat) (content : Bytes)
  deriving DecidableEq, Repr

/-- The inode of an entry. A directory is never an entry twice, so its location will do. -/
def Entry.inode? : Entry → Option Nat
  | directory _ => none
  | symbolicLink inode _ => some inode
  | file inode _ _ => some inode

def Entry.isDirectory : Entry → Bool
  | directory _ => true
  | _ => false

def Entry.isFile : Entry → Bool
  | file _ _ _ => true
  | _ => false

/-- The first entry with a location, among some entries. -/
def lookUp (location : Location) : List (Location × Entry) → Option Entry
  | [] => none
  | item :: rest => if item.1 = location then some item.2 else lookUp location rest

/-- What is at a location, among some entries. The root is always a directory. -/
def entryAmong (entries : List (Location × Entry)) : Location → Option Entry
  | [] => some (.directory 0o755)
  | name :: directory => lookUp (name :: directory) entries

def isDirectoryAmong (entries : List (Location × Entry)) (location : Location) : Bool :=
  (entryAmong entries location).any Entry.isDirectory

/-- Every entry lies in a directory. -/
def Rooted (entries : List (Location × Entry)) : Prop :=
  ∀ name directory, (entryAmong entries (name :: directory)).isSome →
    isDirectoryAmong entries directory

/-- A file system, with the directory from which relative paths start. Nothing says that there is a
directory at this location. Where it has been removed, a relative path is refused as one through
something that is no directory, and a system would say that there is no such file. -/
structure FileSystem where
  entries : List (Location × Entry)
  current : Location
  rooted : Rooted entries

namespace FileSystem

/-- A file system with nothing but the root. -/
def empty : FileSystem where
  entries := []
  current := []
  rooted := by simp [Rooted, entryAmong, lookUp]

def entryAt? (files : FileSystem) (location : Location) : Option Entry :=
  entryAmong files.entries location

def isDirectoryAt (files : FileSystem) (location : Location) : Bool :=
  (files.entryAt? location).any Entry.isDirectory

/-- The file system with another directory from which relative paths start. -/
def startingAt (files : FileSystem) (current : Location) : FileSystem := { files with current }

theorem isDirectoryAt_of_entryAt? {files : FileSystem} {name : Bytes} {directory : Location}
    {entry : Entry} (found : files.entryAt? (name :: directory) = some entry) :
    files.isDirectoryAt directory := by
  apply files.rooted name directory
  unfold entryAt? at found
  simp [found]

/-- Nothing lies below what does not exist. -/
theorem entryAt?_eq_none_of_directory {files : FileSystem} {name : Bytes} {directory : Location}
    (absent : files.entryAt? directory = none) : files.entryAt? (name :: directory) = none := by
  cases found : files.entryAt? (name :: directory) with
  | none => rfl
  | some entry =>
      have := isDirectoryAt_of_entryAt? found
      simp [isDirectoryAt, absent] at this

def freshInode (files : FileSystem) : Nat :=
  files.entries.foldr (fun item bound => max (item.2.inode?.getD 0 + 1) bound) 0

def linkCount (files : FileSystem) (inode : Nat) : Nat :=
  files.entries.countP fun item => item.2.inode? = some inode

theorem entryAmong_cons_self {entries : List (Location × Entry)} {name : Bytes}
    {directory : Location} {entry : Entry} :
    entryAmong ((name :: directory, entry) :: entries) (name :: directory) = some entry := by
  simp [entryAmong, lookUp]

theorem entryAmong_cons_of_ne {entries : List (Location × Entry)} {location added : Location}
    {entry : Entry} (different : location ≠ added) :
    entryAmong ((added, entry) :: entries) location = entryAmong entries location := by
  cases location with
  | nil => rfl
  | cons name directory => simp [entryAmong, lookUp, different.symm]

theorem ne_cons_self {name : Bytes} {directory : Location} : directory ≠ name :: directory := by
  intro same
  have := congrArg List.length same
  simp at this

theorem rooted_cons {entries : List (Location × Entry)} {name : Bytes} {directory : Location}
    {entry : Entry} (rooted : Rooted entries) (within : isDirectoryAmong entries directory)
    (vacant : entryAmong entries (name :: directory) = none) :
    Rooted ((name :: directory, entry) :: entries) := by
  intro otherName otherDirectory present
  by_cases same : otherName :: otherDirectory = name :: directory
  · injection same with _ sameDirectory
    subst sameDirectory
    unfold isDirectoryAmong at within ⊢
    rw [entryAmong_cons_of_ne ne_cons_self]
    exact within
  · rw [entryAmong_cons_of_ne same] at present
    have inDirectory := rooted _ _ present
    have different : otherDirectory ≠ name :: directory := by
      intro sameDirectory
      subst sameDirectory
      simp [isDirectoryAmong, vacant] at inDirectory
    unfold isDirectoryAmong at inDirectory ⊢
    rw [entryAmong_cons_of_ne different]
    exact inDirectory

/-- Put an entry into a directory, under a name that is still free. -/
def add (files : FileSystem) (directory : Location) (name : Bytes) (entry : Entry) : FileSystem :=
  if free : isDirectoryAmong files.entries directory
      ∧ entryAmong files.entries (name :: directory) = none then
    { files with
      entries := (name :: directory, entry) :: files.entries
      rooted := rooted_cons files.rooted free.1 free.2 }
  else files

/-- What an added entry changes: its own location and no other. -/
theorem entryAt?_add {files : FileSystem} {directory : Location} {name : Bytes} {entry : Entry}
    (within : files.isDirectoryAt directory) (vacant : files.entryAt? (name :: directory) = none)
    (location : Location) :
    (files.add directory name entry).entryAt? location =
      if location = name :: directory then some entry else files.entryAt? location := by
  unfold isDirectoryAt entryAt? at within
  unfold entryAt? at vacant ⊢
  unfold add
  rw [dif_pos ⟨within, vacant⟩]
  split
  · next same => rw [same]; exact entryAmong_cons_self
  · next different => exact entryAmong_cons_of_ne different

theorem entryAmong_map {entries : List (Location × Entry)} {change : Entry → Entry}
    (keeps : ∀ permissions, change (.directory permissions) = .directory permissions)
    (location : Location) :
    entryAmong (entries.map fun item => (item.1, change item.2)) location =
      (entryAmong entries location).map change := by
  cases location with
  | nil => simp [entryAmong, keeps]
  | cons name directory =>
      simp only [entryAmong]
      induction entries with
      | nil => rfl
      | cons item rest ih =>
          simp only [List.map_cons, lookUp]
          split
          · rfl
          · exact ih

theorem rooted_map {entries : List (Location × Entry)} {change : Entry → Entry}
    (keeps : ∀ permissions, change (.directory permissions) = .directory permissions)
    (rooted : Rooted entries) :
    Rooted (entries.map fun item => (item.1, change item.2)) := by
  intro name directory present
  rw [entryAmong_map keeps] at present
  have within := rooted name directory (by simpa using present)
  unfold isDirectoryAmong at within ⊢
  rw [entryAmong_map keeps]
  cases found : entryAmong entries directory with
  | none => simp [found] at within
  | some entry =>
      cases entry with
      | directory permissions => simp [keeps, Entry.isDirectory]
      | symbolicLink inode target => simp [found, Entry.isDirectory] at within
      | file inode permissions content => simp [found, Entry.isDirectory] at within

/-- A file of the given inode with another content, and every other entry as it is. -/
def Entry.withContent (inode : Nat) (content : Bytes) : Entry → Entry
  | .file own permissions old =>
      if own = inode then .file own permissions content else .file own permissions old
  | entry => entry

/-- Write the content of an inode. All its entries show the new content. -/
def setContent (files : FileSystem) (inode : Nat) (content : Bytes) : FileSystem where
  entries := files.entries.map fun item => (item.1, Entry.withContent inode content item.2)
  current := files.current
  rooted := rooted_map (fun _ => rfl) files.rooted

/-- What a written content changes: the entries of the inode. -/
theorem entryAt?_setContent (files : FileSystem) (inode : Nat) (content : Bytes)
    (location : Location) :
    (files.setContent inode content).entryAt? location =
      (files.entryAt? location).map (Entry.withContent inode content) :=
  entryAmong_map (fun _ => rfl) location

/-- A file of the given inode with other permissions, and every other entry as it is. -/
def Entry.withPermissions (inode permissions : Nat) : Entry → Entry
  | .file own old content =>
      if own = inode then .file own permissions content else .file own old content
  | entry => entry

def setPermissions (files : FileSystem) (inode permissions : Nat) : FileSystem where
  entries := files.entries.map fun item => (item.1, Entry.withPermissions inode permissions item.2)
  current := files.current
  rooted := rooted_map (fun _ => rfl) files.rooted

def isAtOrBelow (location top : Location) : Bool := top.isSuffixOf location

theorem entryAmong_filter {entries : List (Location × Entry)} {top location : Location}
    (nonempty : location ≠ []) :
    entryAmong (entries.filter fun item => !isAtOrBelow item.1 top) location =
      if isAtOrBelow location top then none else entryAmong entries location := by
  cases location with
  | nil => exact absurd rfl nonempty
  | cons name directory =>
      simp only [entryAmong]
      induction entries with
      | nil => simp [lookUp]
      | cons item rest ih =>
          rw [List.filter_cons]
          by_cases same : item.1 = name :: directory
          · by_cases below : isAtOrBelow (name :: directory) top
            · simpa [same, below, lookUp] using ih
            · simp [same, below, lookUp]
          · by_cases below : isAtOrBelow item.1 top
            · simpa [same, below, lookUp] using ih
            · simpa [same, below, lookUp] using ih

theorem isAtOrBelow_cons {name : Bytes} {directory top : Location}
    (below : isAtOrBelow directory top) : isAtOrBelow (name :: directory) top := by
  unfold isAtOrBelow at below ⊢
  rw [List.isSuffixOf_iff_suffix] at below ⊢
  exact below.trans (List.suffix_cons name directory)

theorem rooted_filter {entries : List (Location × Entry)} {top : Location}
    (rooted : Rooted entries) :
    Rooted (entries.filter fun item => !isAtOrBelow item.1 top) := by
  intro name directory present
  rw [entryAmong_filter (by simp)] at present
  have outside : ¬ isAtOrBelow (name :: directory) top := by
    intro below
    simp [below] at present
  rw [if_neg outside] at present
  have within := rooted name directory present
  cases directory with
  | nil => simp [isDirectoryAmong, entryAmong, Entry.isDirectory]
  | cons parent above =>
      unfold isDirectoryAmong at within ⊢
      rw [entryAmong_filter (by simp), if_neg fun below => outside (isAtOrBelow_cons below)]
      exact within

/-- Remove a location and all that lies below it. -/
def removeAt (files : FileSystem) (top : Location) : FileSystem where
  entries := files.entries.filter fun item => !isAtOrBelow item.1 top
  current := files.current
  rooted := rooted_filter files.rooted

/-- What a removal changes: the location and all that lies below it. -/
theorem entryAt?_removeAt {files : FileSystem} {top location : Location} (nonempty : location ≠ []) :
    (files.removeAt top).entryAt? location =
      if isAtOrBelow location top then none else files.entryAt? location :=
  entryAmong_filter nonempty

end FileSystem

end HostHome
