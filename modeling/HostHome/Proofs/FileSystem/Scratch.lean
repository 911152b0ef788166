import HostHome.Proofs.FileSystem.Alike
import HostHome.Proofs.FileSystem.NewTrees

/-!
# Trees that are put up and taken away

A tree that is put up at a free name changes nothing elsewhere.  There are no links in
it, so whoever goes on by names stays in it, and its files share nothing with others.
When it is taken away, all entries are as they were before.
-/

namespace HostHome

open HostHome.Text (Bytes)

def Spot.site : Spot → Location
  | .entry location _ => location
  | .vacant directory name _ => name :: directory

namespace FileSystem

variable {files middle later after : FileSystem} {top place directory location : Location}
  {base path upper : Path} {name : Bytes} {names : List Bytes}

theorem ne_of_outside (outside : ¬ top <:+ location) (below : top <:+ place) :
    location ≠ place := by
  rintro rfl
  exact outside below

theorem entryAt?_eq_none_of_suffix (vacant : files.entryAt? top = none)
    (below : top <:+ location) : files.entryAt? location = none := by
  obtain ⟨front, rfl⟩ := below
  induction front with
  | nil => exact vacant
  | cons name front ih => exact entryAt?_eq_none_of_directory ih

theorem checkPath_ne_absent (nonempty : path.bytes ≠ []) : checkPath path ≠ .error .absent := by
  unfold checkPath Path.isEmpty
  rw [List.isEmpty_eq_false_iff.2 nonempty]
  split
  · simp
  · split
    · contradiction
    · split <;> simp

/-- Where nothing is found in a directory, there is a free name. -/
theorem placedAt_of_findLink_eq_absent (ordinary : OrdinaryName name)
    (leads : files.LeadsInto base directory)
    (absent : files.findLink (base.join ⟨name⟩) = .error .absent) :
    files.PlacedAt (base.join ⟨name⟩) directory name ∧
      files.entryAt? (name :: directory) = none := by
  have split := splitName?_joinName ordinary base
  have steps : (base.join ⟨name⟩).steps = (base.join ⟨name⟩).course := by
    simp [Path.steps_eq, Path.endsWithSlash_joinName ordinary base]
  have reached := leads
  unfold LeadsInto at reached
  rw [← Path.startOf_joinName ordinary] at reached
  cases accepted : checkPath (base.join ⟨name⟩) with
  | error error =>
      simp only [findLink, accepted, bind, Except.bind] at absent
      cases absent
      exact absurd accepted (checkPath_ne_absent (Path.bytes_joinName_ne_nil ordinary base))
  | ok _ =>
      simp only [findLink, accepted, steps, split, reached, bind, Except.bind] at absent
      split at absent
      · cases absent
      · next short =>
          split at absent
          · next vacant =>
              have placed := (placedAt_joinName_iff ordinary).2
                ⟨accepted, rfl, Nat.not_lt.1 short, leads⟩
              exact ⟨placed, vacant⟩
          · cases absent

/-- The later file system is the other one with a tree at a location: directories, and files that
are not found elsewhere. -/
structure GrowsAt (top : Location) (files later : FileSystem) : Prop where
  current : later.current = files.current
  outside : ∀ {location : Location}, ¬ top <:+ location →
    later.entryAt? location = files.entryAt? location
  direct : ∀ {location : Location} {inode : Nat} {target : Path}, top <:+ location →
    later.entryAt? location ≠ some (.symbolicLink inode target)
  isDirectory : ∀ {entry : Entry}, later.entryAt? top = some entry → entry.isDirectory
  own : ∀ {inside other : Location} {entry otherEntry : Entry} {inode : Nat}, top <:+ inside →
    ¬ top <:+ other → later.entryAt? inside = some entry →
    later.entryAt? other = some otherEntry → entry.inode? = some inode →
    otherEntry.inode? ≠ some inode

theorem growsAt_of_alike (vacant : files.entryAt? top = none) (alike : Alike files later) :
    GrowsAt top files later := by
  have none {location : Location} (below : top <:+ location) : later.entryAt? location = none := by
    rw [alike.entries]
    exact entryAt?_eq_none_of_suffix vacant below
  refine ⟨alike.current, fun _ => alike.entries _, fun below => ?_, fun present => ?_,
    fun below _ present => ?_⟩
  · simp [none below]
  · simp [none (List.suffix_refl top)] at present
  · simp [none below] at present

theorem GrowsAt.grows (grows : GrowsAt top files later) (vacant : files.entryAt? top = none) :
    Grows files later := by
  refine ⟨grows.current, fun {location entry} found => ⟨entry, ?_, rfl⟩⟩
  rw [grows.outside, found]
  intro below
  simp [entryAt?_eq_none_of_suffix vacant below] at found

theorem inode_lt_freshInode {entry : Entry} {inode : Nat}
    (found : files.entryAt? location = some entry) (numbered : entry.inode? = some inode) :
    inode < files.freshInode := by
  have bound : ∀ {entries : List (Location × Entry)}, lookUp location entries = some entry →
      inode < entries.foldr (fun item bound => max (item.2.inode?.getD 0 + 1) bound) 0 := by
    intro entries found
    induction entries with
    | nil => cases found
    | cons item rest ih =>
        rw [lookUp] at found
        split at found
        · cases found
          simp only [List.foldr_cons, numbered, Option.getD_some]
          omega
        · have later := ih found
          simp only [List.foldr_cons]
          omega
  cases location with
  | nil =>
      cases found
      cases numbered
  | cons own above => exact bound found

theorem GrowsAt.addDirectory (grows : GrowsAt top files later)
    (within : later.isDirectoryAt directory) (vacant : later.entryAt? (name :: directory) = none)
    (below : top <:+ name :: directory) (permissions : Nat) :
    GrowsAt top files (later.add directory name (.directory permissions)) := by
  have entries : ∀ location, (later.add directory name (.directory permissions)).entryAt? location =
      if location = name :: directory then some (.directory permissions)
      else later.entryAt? location := entryAt?_add within vacant
  refine ⟨(current_add ..).trans grows.current, ?_, ?_, ?_, ?_⟩
  · intro location outside
    rw [entries, if_neg (ne_of_outside outside below), grows.outside outside]
  · intro location inode target inside
    rw [entries]
    split
    · simp
    · exact grows.direct inside
  · intro entry present
    rw [entries] at present
    split at present
    · cases present
      rfl
    · exact grows.isDirectory present
  · intro inside other entry otherEntry inode belowInside outside present presentOther numbered
    rw [entries] at present presentOther
    rw [if_neg (ne_of_outside outside below)] at presentOther
    split at present
    · cases present
      cases numbered
    · exact grows.own belowInside outside present presentOther numbered

theorem GrowsAt.addFile (grows : GrowsAt top files later)
    (within : later.isDirectoryAt directory) (vacant : later.entryAt? (name :: directory) = none)
    (below : top <:+ directory) (permissions : Nat) (content : Bytes) :
    GrowsAt top files
      (later.add directory name (.file later.freshInode permissions content)) := by
  have entries : ∀ location,
      (later.add directory name (.file later.freshInode permissions content)).entryAt? location =
        if location = name :: directory then some (.file later.freshInode permissions content)
        else later.entryAt? location := entryAt?_add within vacant
  have belowFile : top <:+ name :: directory := below.trans (List.suffix_cons name directory)
  refine ⟨(current_add ..).trans grows.current, ?_, ?_, ?_, ?_⟩
  · intro location outside
    rw [entries, if_neg (ne_of_outside outside belowFile), grows.outside outside]
  · intro location inode target inside
    rw [entries]
    split
    · simp
    · exact grows.direct inside
  · intro entry present
    have different : top ≠ name :: directory := by
      rintro rfl
      have short := below.length_le
      simp only [List.length_cons] at short
      omega
    rw [entries, if_neg different] at present
    exact grows.isDirectory present
  · intro inside other entry otherEntry inode belowInside outside present presentOther numbered
    rw [entries] at present presentOther
    rw [if_neg (ne_of_outside outside belowFile)] at presentOther
    split at present
    · cases present
      cases numbered
      intro shared
      exact absurd (inode_lt_freshInode presentOther shared) (Nat.lt_irrefl _)
    · exact grows.own belowInside outside present presentOther numbered

theorem inode?_withContent (inode : Nat) (content : Bytes) (entry : Entry) :
    (Entry.withContent inode content entry).inode? = entry.inode? :=
  Entry.inode?_of_shape (Entry.shape_withContent inode content entry)

theorem withContent_of_inode?_ne {inode : Nat} {entry : Entry}
    (different : entry.inode? ≠ some inode) (content : Bytes) :
    Entry.withContent inode content entry = entry := by
  cases entry with
  | directory | symbolicLink => rfl
  | file own permissions old =>
      have other : own ≠ inode := fun same => different (congrArg some same)
      simp [Entry.withContent, other]

theorem GrowsAt.setContent (grows : GrowsAt top files later) (below : top <:+ place) {inode : Nat}
    {permissions : Nat} {old : Bytes}
    (found : later.entryAt? place = some (.file inode permissions old)) (content : Bytes) :
    GrowsAt top files (later.setContent inode content) := by
  have entries := entryAt?_setContent later inode content
  refine ⟨grows.current, ?_, ?_, ?_, ?_⟩
  · intro location outside
    rw [entries, ← grows.outside outside]
    cases present : later.entryAt? location with
    | none => rfl
    | some entry =>
        have different := grows.own below outside found present rfl
        rw [Option.map_some, withContent_of_inode?_ne different]
  · intro location own target inside linked
    rw [entries, Option.map_eq_some_iff] at linked
    obtain ⟨entry, present, becomes⟩ := linked
    have same := Entry.shape_withContent inode content entry
    rw [becomes] at same
    rw [Entry.shape_eq_symbolicLink_iff.1 same.symm] at present
    exact grows.direct inside present
  · intro entry present
    rw [entries, Option.map_eq_some_iff] at present
    obtain ⟨before, present, rfl⟩ := present
    rw [Entry.isDirectory_of_shape (Entry.shape_withContent inode content before)]
    exact grows.isDirectory present
  · intro inside other entry otherEntry number belowInside outside present presentOther numbered
    rw [entries, Option.map_eq_some_iff] at present presentOther
    obtain ⟨before, present, rfl⟩ := present
    obtain ⟨otherBefore, presentOther, rfl⟩ := presentOther
    rw [inode?_withContent] at numbered ⊢
    exact grows.own belowInside outside present presentOther numbered

/-- In a tree without links, names lead further into it. -/
theorem GrowsAt.below_of_walks (grows : GrowsAt top files later) {links left : Nat} {spot : Spot}
    (walks : Walks later links place (names.map .name) left spot) (below : top <:+ place) :
    top <:+ spot.site := by
  induction names generalizing place with
  | nil =>
      cases walks
      exact below
  | cons name rest ih =>
      have deeper : top <:+ name :: place := below.trans (List.suffix_cons name place)
      cases walks with
      | vacant => exact deeper
      | enter _ _ _ _ walks => exact ih walks deeper
      | follow _ _ linked => exact absurd linked (grows.direct deeper)

/-- The path goes on by names from a path that leads to a directory, and the first of the names is
that of a location in there. -/
def Enters (files : FileSystem) (top : Location) (path : Path) : Prop :=
  ∃ base directory name names, files.LeadsInto base directory ∧ top = name :: directory ∧
    path.isAbsolute = base.isAbsolute ∧ path.course = base.course ++ (name :: names).map .name

theorem enters_of_goesOn (leads : files.LeadsInto base directory)
    (goes : base.GoesOn (name :: names) path) : files.Enters (name :: directory) path :=
  ⟨base, directory, name, names, leads, rfl, goes.absolute, goes.course⟩

/-- Whatever a path into a tree leads to is in the tree. -/
theorem GrowsAt.below_of_enters (grows : GrowsAt top files later)
    (vacant : files.entryAt? top = none) (enters : files.Enters top path) {left : Nat}
    {spot : Spot}
    (walks : Walks later linkLimit (startOf later.current path) path.course left spot) :
    top <:+ spot.site := by
  obtain ⟨base, directory, name, names, leads, rfl, absolute, course⟩ := enters
  rw [startOf_of_isAbsolute _ absolute] at walks
  obtain ⟨middle, place, _, first, second⟩ := walks.split course (by simp)
  have leadsNow := (grows.grows vacant).leadsInto leads
  obtain ⟨_, _, _, reached⟩ := walkToDirectory_eq_ok_iff.1 leadsNow
  obtain ⟨_, same⟩ := first.unique reached
  cases same
  have here : name :: directory <:+ name :: directory := List.suffix_refl _
  cases second with
  | vacant => exact here
  | enter _ _ _ _ walks => exact grows.below_of_walks walks here
  | follow _ _ linked => exact absurd linked (grows.direct here)

/-- A path whose steps are the first ones of a path into a tree leads to a directory above the tree,
or into it. -/
theorem leadsInto_or_enters (leads : files.LeadsInto base directory)
    (absolute : upper.isAbsolute = base.isAbsolute)
    (first : upper.course <+: base.course ++ (name :: names).map .name) :
    (∃ location, files.LeadsInto upper location) ∨ files.Enters (name :: directory) upper := by
  obtain ⟨rest, whole⟩ := first
  rcases List.append_eq_append_iff.1 whole with ⟨more, course, _⟩ | ⟨more, course, spelled⟩
  · exact .inl (leads.above absolute course)
  · obtain ⟨front, back, split, rfl, _⟩ := List.map_eq_append_iff.1 spelled
    cases front with
    | nil =>
        have same : base.course = upper.course := by simpa using course.symm
        exact .inl ⟨directory, leadsInto_of_course same absolute.symm leads⟩
    | cons first front =>
        obtain ⟨rfl, _⟩ := List.cons.inj split
        exact .inr ⟨base, directory, name, front, leads, rfl, absolute, course⟩

/-- The paths of a tree that a path enters lead to directories above it, or into it. -/
theorem leadsInto_or_enters_of_mem_treeSteps (leads : files.LeadsInto base directory)
    (goes : base.GoesOn (name :: names) path) (member : upper ∈ treeSteps path) :
    (∃ location, files.LeadsInto upper location) ∨ files.Enters (name :: directory) upper := by
  obtain ⟨absolute, first⟩ := course_of_mem_treeSteps member
  rw [goes.course] at first
  exact leadsInto_or_enters leads (absolute.trans goes.absolute) first

/-- The components of a path that leads to a directory spell a path that leads there. -/
theorem exists_leadsInto_of_components (leads : files.LeadsInto base directory) :
    ∃ spelled : Path, files.LeadsInto spelled directory ∧
      spelled.course = base.components.filterMap Component.step? ∧
      (spelled.isAbsolute ↔ base.components.head? = some .root) := by
  by_cases empty : base.bytes = []
  · obtain ⟨bytes⟩ := base
    cases empty
    exact ⟨⟨[]⟩, leads, by decide, by decide⟩
  · have some := Path.components_ne_nil empty
    have spells := Path.spells_ofComponents (List.prefix_refl base.components) some
    exact ⟨_, leads.ofComponents some, spells.course_eq, spells.absolute⟩

theorem leadsInto_or_enters_of_mem_pathsUpward (leads : files.LeadsInto base directory)
    (goes : base.GoesOn (name :: names) path) (member : upper ∈ pathsUpward path) :
    (∃ location, files.LeadsInto upper location) ∨ files.Enters (name :: directory) upper := by
  rcases List.mem_cons.1 member with rfl | member
  · exact .inr (enters_of_goesOn leads goes)
  · obtain ⟨first, some, within, rfl⟩ := exists_of_mem_pathsAbove member
    rw [List.tail_reverse, List.reverse_reverse] at within
    have begins : first <+: path.components := within.trans (List.dropLast_prefix _)
    have spells := Path.spells_ofComponents begins some
    obtain ⟨spelled, leadsSpelled, course, absolute⟩ := exists_leadsInto_of_components leads
    rw [goes.components] at begins
    refine @leadsInto_or_enters _ _ _ _ _ names leadsSpelled ?_ ?_
    · rw [Bool.eq_iff_iff, spells.absolute, absolute]
      obtain ⟨component, more, rfl⟩ := List.exists_cons_of_ne_nil some
      obtain ⟨rest, whole⟩ := begins
      have head := congrArg List.head? whole
      cases spelling : base.components with
      | nil =>
          rw [spelling] at head
          simp only [List.cons_append, List.head?_cons, List.nil_append, List.map_cons,
            Option.some.injEq] at head
          simp [head]
      | cons other tail =>
          rw [spelling] at head
          simp only [List.cons_append, List.head?_cons, Option.some.injEq] at head
          simp [head]
    · have steps := begins.filterMap Component.step?
      have named (names : List Bytes) :
          (names.map Component.name).filterMap Component.step? = names.map .name := by
        rw [List.filterMap_map, ← List.filterMap_eq_map]
        rfl
      rwa [List.filterMap_append, named, ← course, ← spells.course_eq] at steps

/-- The steps of a path lead to its place, if that is free. -/
theorem PlacedAt.exists_walks (placed : files.PlacedAt path directory name)
    (free : files.entryAt? (name :: directory) = none) :
    ∃ left, Walks files linkLimit (startOf files.current path) path.course left
      (.vacant directory name false) := by
  obtain ⟨_, ⟨before, split, reached⟩, short⟩ := placed
  obtain ⟨within, left, _, walks⟩ := walkToDirectory_eq_ok_iff.1 reached
  have last : Walks files left directory [.name name] left (.vacant directory name false) :=
    .vacant within short free (by simp)
  rw [course_of_splitName? split]
  exact ⟨left, walks.append last (by simp)⟩

theorem GrowsAt.makeDirectory (grows : GrowsAt top files later) (vacant : files.entryAt? top = none)
    (either : (∃ location, files.LeadsInto path location) ∨ files.Enters top path)
    (made : later.makeDirectory path = .ok after) : GrowsAt top files after := by
  obtain ⟨directory, name, placed, free, rfl⟩ := placedAt_of_makeDirectory made
  rcases either with ⟨location, leads⟩ | enters
  · have taken := ((grows.grows vacant).leadsInto leads).taken placed.accepted
    rw [Taken, made] at taken
    cases taken
  · obtain ⟨_, walks⟩ := placed.exists_walks free
    exact grows.addDirectory placed.isDirectoryAt free
      (grows.below_of_enters vacant enters walks) _

/-- The creation of a tree at a free name changes nothing elsewhere. -/
theorem GrowsAt.ensureTree (grows : GrowsAt (name :: directory) files later)
    (vacant : files.entryAt? (name :: directory) = none) (leads : files.LeadsInto base directory)
    (goes : base.GoesOn (name :: names) path) :
    GrowsAt (name :: directory) files (later.ensureTree path).1 := by
  cases spelled : Text.decode? path.bytes with
  | some text =>
      rw [ensureTree_of_spelled spelled]
      refine ensureSteps_preserves ?_ grows
      intro upper member middle after grows made
      exact grows.makeDirectory vacant
        (leadsInto_or_enters_of_mem_treeSteps leads goes member) made
  | none =>
      rw [ensureTree_of_unspelled spelled, createAll]
      split
      · exact grows
      · refine createUpward_preserves ?_ grows
        intro upper member middle after grows made
        exact grows.makeDirectory vacant
          (leadsInto_or_enters_of_mem_pathsUpward leads goes member) made

theorem GrowsAt.writeFile (grows : GrowsAt top files later) (vacant : files.entryAt? top = none)
    (enters : files.Enters top path) {own content : Bytes} (ordinary : OrdinaryName own)
    (written : later.writeFile (path.join ⟨own⟩) content = .ok after) :
    GrowsAt top files after := by
  cases followed : later.follow true (path.join ⟨own⟩) with
  | error error => simp [FileSystem.writeFile, followed, bind, Except.bind] at written
  | ok spot =>
      obtain ⟨_, walked⟩ := follow_eq_ok_iff.1 followed
      rw [Path.steps_joinName ordinary, Path.startOf_joinName ordinary] at walked
      obtain ⟨_, walks⟩ := exists_walks walked
      obtain ⟨_, place, _, first, second⟩ := walks.split rfl (by simp)
      have below : top <:+ place := grows.below_of_enters vacant enters first
      have deeper : top <:+ own :: place := below.trans (List.suffix_cons own place)
      simp only [FileSystem.writeFile, followed, bind, Except.bind, pure, Except.pure] at written
      cases second with
      | vacant within short free last =>
          cases written
          exact grows.addFile within free below _ _
      | follow _ _ linked => exact absurd linked (grows.direct deeper)
      | @enter _ _ _ _ _ _ entry _ _ found _ walks =>
          cases walks
          cases entry with
          | directory | symbolicLink => simp [found] at written
          | file inode permissions old =>
              simp only [found] at written
              cases written
              exact grows.setContent deeper found content

/-- A tree that is taken away again leaves all entries as they were before it was put up. -/
theorem GrowsAt.removeTree (grows : GrowsAt (name :: directory) files later)
    (vacant : files.entryAt? (name :: directory) = none)
    (placed : files.PlacedAt path directory name) (open_ : path.endsWithSlash = false) :
    (later.removeTree path = .error .absent ∧ Alike files later) ∨
      ∃ after, later.removeTree path = .ok after ∧ Alike files after := by
  have found := ((grows.grows vacant).placedAt placed).findLink_eq open_
  have before {location : Location} (inside : name :: directory <:+ location) :
      files.entryAt? location = none := entryAt?_eq_none_of_suffix vacant inside
  cases present : later.entryAt? (name :: directory) with
  | none =>
      rw [present] at found
      refine .inl ⟨?_, grows.current, fun location => ?_⟩
      · simp [FileSystem.removeTree, found, bind, Except.bind]
      by_cases inside : name :: directory <:+ location
      · rw [before inside, entryAt?_eq_none_of_suffix present inside]
      · exact grows.outside inside
  | some entry =>
      have isDirectory := grows.isDirectory present
      rw [present] at found
      cases entry with
      | symbolicLink | file => cases isDirectory
      | directory permissions =>
          refine .inr ⟨later.removeAt (name :: directory), ?_, grows.current, fun location => ?_⟩
          · simp [FileSystem.removeTree, FileSystem.remove, found, open_, bind, Except.bind, pure,
              Except.pure]
          · cases location with
            | nil => rfl
            | cons own above =>
                rw [entryAt?_removeAt (by simp)]
                simp only [isAtOrBelow, List.isSuffixOf_iff_suffix]
                split
                · next inside => exact (before inside).symm
                · next outside => exact grows.outside outside

end FileSystem

end HostHome
