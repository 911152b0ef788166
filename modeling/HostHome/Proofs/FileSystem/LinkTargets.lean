import HostHome.Proofs.FileSystem.Writing

/-!
# Where links lead

Whoever comes to a symbolic link goes on along its target, from the directory that
holds the link and with one link less to follow.  So a link with an absolute target
leads to what its target leads to, unless there are too many links on the way, but a
relative target means something else to the link than to a program elsewhere.
-/

namespace HostHome.FileSystem

open HostHome.Text (Bytes)

variable {files : FileSystem} {links left spare inode : Nat} {place goal directory : Location}
  {steps : List Step} {spot : Spot} {slashed : Bool} {base path target : Path} {name : Bytes}
  {entry : Entry}

theorem Walks.more (walks : Walks files links place steps left spot) (extra : Nat) :
    Walks files (links + extra) place steps (left + extra) spot := by
  induction walks with
  | arrive links place => exact .arrive _ place
  | arriveSlashed links place => exact .arriveSlashed _ place
  | slash more walks ih => exact .slash more ih
  | stay within walks ih => exact .stay within ih
  | up within walks ih => exact .up within ih
  | vacant within short free last => exact .vacant within short free last
  | enter within short found direct walks ih => exact .enter within short found direct ih
  | @follow links left place name rest spot inode target within short found walks ih =>
      have next : links + 1 + extra = links + extra + 1 := by omega
      rw [next]
      exact .follow within short found ih

/-- With another number of links to follow, a walk ends at the same spot, or it comes to a link too
many. -/
theorem Walks.withLinks (walks : Walks files links place steps left spot) (others : Nat) :
    (∃ rest, Walks files others place steps rest spot) ∨
      files.walk false others place steps = .error .tooManyLinks := by
  induction walks generalizing others with
  | arrive links place => exact .inl ⟨_, .arrive _ place⟩
  | arriveSlashed links place => exact .inl ⟨_, .arriveSlashed _ place⟩
  | slash more walks ih =>
      rcases ih others with ⟨rest, walks⟩ | stopped
      · exact .inl ⟨rest, .slash more walks⟩
      · refine .inr ?_
        rw [walk]
        · exact stopped
        · exact more
  | stay within walks ih =>
      rcases ih others with ⟨rest, walks⟩ | stopped
      · exact .inl ⟨rest, .stay within walks⟩
      · exact .inr (by simpa [walk, within] using stopped)
  | up within walks ih =>
      rcases ih others with ⟨rest, walks⟩ | stopped
      · exact .inl ⟨rest, .up within walks⟩
      · exact .inr (by simpa [walk, within] using stopped)
  | vacant within short free last => exact .inl ⟨_, .vacant within short free last⟩
  | @enter links left place name rest spot entry within short found direct walks ih =>
      rcases ih others with ⟨rest, walks⟩ | stopped
      · exact .inl ⟨rest, .enter within short found direct walks⟩
      · refine .inr ?_
        rw [walk]
        cases entry with
        | symbolicLink inode target => exact absurd rfl (direct inode target)
        | directory permissions => simpa [within, Nat.not_lt.2 short, found] using stopped
        | file inode permissions content => simpa [within, Nat.not_lt.2 short, found] using stopped
  | follow within short found walks ih =>
      cases others with
      | zero => exact .inr (by simp [walk, within, Nat.not_lt.2 short, found])
      | succ others =>
          rcases ih others with ⟨rest, walks⟩ | stopped
          · exact .inl ⟨rest, .follow within short found walks⟩
          · exact .inr (by simpa [walk, within, Nat.not_lt.2 short, found] using stopped)

/-- From a directory, and with a number of links to follow, the path leads to an entry. -/
def FindsFrom (files : FileSystem) (links : Nat) (place : Location) (path : Path)
    (goal : Location) (entry : Entry) : Prop :=
  files.entryAt? goal = some entry ∧
    ∃ left slashed, Walks files links (startOf place path) path.steps left (.entry goal slashed) ∧
      (slashed → entry.isDirectory)

/-- The path leads to a directory, and leaves a number of links to follow. -/
def LeadsLeaving (files : FileSystem) (path : Path) (directory : Location) (spare : Nat) : Prop :=
  files.isDirectoryAt directory ∧
    ∃ slashed, Walks files linkLimit (startOf files.current path) path.course spare
      (.entry directory slashed)

theorem leadsInto_iff_leadsLeaving :
    files.LeadsInto path directory ↔ ∃ spare, files.LeadsLeaving path directory spare := by
  unfold LeadsInto LeadsLeaving
  rw [walkToDirectory_eq_ok_iff]
  simp only [exists_and_left]

theorem walks_link_iff (link : files.entryAt? (name :: directory) =
      some (.symbolicLink inode target)) (within : files.isDirectoryAt directory)
    (short : name.length ≤ nameLimit) :
    Walks files spare directory [.name name] left spot ↔
      ∃ links, spare = links + 1 ∧
        Walks files links (startOf directory target) target.steps left spot := by
  constructor
  · intro walks
    cases walks with
    | vacant _ _ free => simp [link] at free
    | enter _ _ found direct =>
        rw [link, Option.some.injEq] at found
        exact absurd found.symm (direct _ _)
    | @follow links _ _ _ _ _ _ _ _ _ found walks =>
        simp only [link, Option.some.injEq, Entry.symbolicLink.injEq] at found
        obtain ⟨_, rfl⟩ := found
        rw [List.append_nil] at walks
        exact ⟨links, rfl, walks⟩
  · rintro ⟨links, rfl, walks⟩
    rw [← List.append_nil target.steps] at walks
    exact .follow within short link walks

section Placed

variable (ordinary : OrdinaryName name) (accepted : checkPath (base.join ⟨name⟩) = .ok ())
  (short : name.length ≤ nameLimit) (leads : files.LeadsLeaving base directory spare)
  (link : files.entryAt? (name :: directory) = some (.symbolicLink inode target))
include ordinary leads link short

theorem walks_joinName_iff :
    Walks files linkLimit (startOf files.current (base.join ⟨name⟩)) (base.join ⟨name⟩).steps left
        spot ↔
      ∃ links, spare = links + 1 ∧
        Walks files links (startOf directory target) target.steps left spot := by
  obtain ⟨within, slashed, reached⟩ := leads
  rw [← walks_link_iff link within short, Path.steps_joinName ordinary,
    Path.startOf_joinName ordinary]
  have further : ¬ [Step.name name].all (· = .slash) := by simp
  constructor
  · intro walks
    obtain ⟨middle, place, _, first, second⟩ := walks.split rfl further
    obtain ⟨rfl, same⟩ := reached.unique first
    cases same
    exact second
  · exact fun walks => reached.append walks further

include accepted

/-- A link leads to what its target leads to from the directory that holds the link, with one link
less to follow. -/
theorem find_link_iff :
    files.find (base.join ⟨name⟩) = .ok (goal, entry) ↔
      ∃ links, spare = links + 1 ∧ FindsFrom files links directory target goal entry := by
  rw [find_eq_ok_iff]
  constructor
  · rintro ⟨_, present, left, slashed, walks, fits⟩
    obtain ⟨links, spared, walks⟩ :=
      (walks_joinName_iff ordinary short leads link).1 walks
    exact ⟨links, spared, present, left, slashed, walks, fits⟩
  · rintro ⟨links, spared, present, left, slashed, walks, fits⟩
    have whole := (walks_joinName_iff ordinary short leads link).2 ⟨links, spared, walks⟩
    exact ⟨accepted, present, left, slashed, whole, fits⟩

/-- A link with an absolute target leads to what the target leads to, or there are too many links
on the way. -/
theorem find_link_of_isAbsolute (absolute : target.isAbsolute)
    (found : files.find target = .ok (goal, entry)) :
    files.find (base.join ⟨name⟩) = .ok (goal, entry) ∨
      files.find (base.join ⟨name⟩) = .error .tooManyLinks := by
  obtain ⟨_, present, left, slashed, walks, fits⟩ := find_eq_ok_iff.1 found
  have start (place : Location) : startOf place target = [] := by
    simp [startOf, absolute]
  obtain ⟨within, _, reached⟩ := leads
  have further : ¬ [Step.name name].all (· = .slash) := by simp
  have onward : Walks files (spare + linkLimit + 1) directory [.name name] (left + spare)
      (.entry goal slashed) := by
    refine (walks_link_iff link within short).2 ⟨linkLimit + spare, by omega, ?_⟩
    rw [start]
    rw [start] at walks
    exact walks.more spare
  have whole := (reached.more (linkLimit + 1)).append onward further
  rw [← Path.steps_joinName ordinary, ← Path.startOf_joinName ordinary] at whole
  rcases whole.withLinks linkLimit with ⟨rest, walks⟩ | stopped
  · exact .inl (find_eq_ok_iff.2 ⟨accepted, present, rest, slashed, walks, fits⟩)
  · refine .inr ?_
    simp [find, follow, accepted, stopped, bind, Except.bind]

end Placed

theorem Walks.direct (walks : Walks files links place steps left (.entry goal slashed))
    (begun : ∀ inode target, files.entryAt? place ≠ some (.symbolicLink inode target)) :
    ∀ inode target, files.entryAt? goal ≠ some (.symbolicLink inode target) := by
  have ofDirectory {place : Location} (within : files.isDirectoryAt place) (inode : Nat)
      (target : Path) : files.entryAt? place ≠ some (.symbolicLink inode target) := by
    intro present
    simp [isDirectoryAt, present, Entry.isDirectory] at within
  generalize reached : Spot.entry goal slashed = spot at walks
  induction walks with
  | arrive | arriveSlashed =>
      cases reached
      exact begun
  | slash more walks ih => exact ih begun reached
  | stay within walks ih => exact ih begun reached
  | up within walks ih => exact ih (ofDirectory (isDirectoryAt_tail within)) reached
  | vacant => cases reached
  | enter within short found direct walks ih =>
      refine ih ?_ reached
      intro inode target present
      rw [found, Option.some.injEq] at present
      exact direct inode target present
  | @follow links left place name rest spot inode target within short found walks ih =>
      refine ih ?_ reached
      unfold startOf
      split
      · exact ofDirectory rfl
      · exact ofDirectory within

theorem find_joinName_direct (ordinary : OrdinaryName name)
    (found : files.find (base.join ⟨name⟩) = .ok (goal, entry)) :
    ∀ inode target, entry ≠ .symbolicLink inode target := by
  obtain ⟨_, present, left, slashed, walks, _⟩ := find_eq_ok_iff.1 found
  rw [Path.steps_joinName ordinary] at walks
  obtain ⟨middle, place, _, _, last⟩ := walks.split rfl (by simp)
  have within : files.isDirectoryAt place := by
    cases last with
    | enter within | follow within => exact within
  have begun (inode : Nat) (target : Path) :
      files.entryAt? place ≠ some (.symbolicLink inode target) := by
    intro present
    simp [isDirectoryAt, present, Entry.isDirectory] at within
  rintro inode target rfl
  exact last.direct begun inode target present

end HostHome.FileSystem
