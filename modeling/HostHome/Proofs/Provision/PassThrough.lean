import HostHome.Proofs.FileSystem.TreeCreation
import HostHome.Proofs.Path.Normal
import HostHome.Proofs.Provision.Contexts

/-!
# Two ways to compare homes

Whether a run passes through is decided by the directories to which the homes lead, or
by the normal forms of their paths where one of the homes is not there.  Without
symbolic links a path leads where its names lead, so the two ways agree: the path
without dots that a file system finds has the components of the normal form.
-/

namespace HostHome.FileSystem

open HostHome.Text (Bytes)

variable {files : FileSystem} {path other canonical : Path} {place location : Location}

def LinkFree (files : FileSystem) : Prop :=
  ∀ location inode target, files.entryAt? location ≠ some (.symbolicLink inode target)

theorem linkFree_empty : FileSystem.empty.LinkFree := by
  intro location inode target found
  cases location <;> simp [entryAt?, entryAmong, empty, lookUp] at found

theorem LinkFree.add (linkFree : files.LinkFree) {entry : Entry}
    (direct : ∀ inode target, entry ≠ .symbolicLink inode target) (directory : Location)
    (name : Bytes) : (files.add directory name entry).LinkFree := by
  intro location inode target found
  unfold FileSystem.add at found
  split at found
  · by_cases added : location = name :: directory
    · rw [added] at found
      exact direct inode target (Option.some.inj (entryAmong_cons_self.symm.trans found))
    · exact linkFree location inode target ((entryAmong_cons_of_ne added).symm.trans found)
  · exact linkFree location inode target found

/-- Without links a walk ends where its steps lead by names alone. -/
theorem Walks.location_eq_foldl {links left : Nat} {steps : List Step} {slashed : Bool}
    (linkFree : files.LinkFree)
    (walks : Walks files links place steps left (.entry location slashed)) :
    location = steps.foldl Step.goFrom place := by
  generalize reached : Spot.entry location slashed = spot at walks
  induction walks with
  | arrive | arriveSlashed => cases reached; rfl
  | slash _ _ ih | stay _ _ ih | up _ _ ih | enter _ _ _ _ _ ih => exact ih reached
  | vacant => cases reached
  | follow _ _ found => exact absurd found (linkFree _ _ _)

theorem foldl_steps (path : Path) (place : Location) :
    path.steps.foldl Step.goFrom place = path.course.foldl Step.goFrom place := by
  rw [Path.steps_eq, List.foldl_append]
  split <;> rfl

/-- Without links an absolute path leads to the location of its normal form. -/
theorem location_eq_of_find {entry : Entry} (linkFree : files.LinkFree)
    (absolute : path.isAbsolute) (found : files.find path = .ok (location, entry)) :
    location = path.plainLocation := by
  obtain ⟨_, _, left, slashed, walks, _⟩ := find_eq_ok_iff.1 found
  have ends := walks.location_eq_foldl linkFree
  rw [startOf, if_pos absolute, foldl_steps] at ends
  exact ends

/-- The path that a file system without links finds has the components of the normal form. -/
theorem components_canonical (linkFree : files.LinkFree) (absolute : path.isAbsolute)
    (found : files.canonical path = .ok canonical) :
    canonical = path.plainLocation.path ∧ canonical.components = path.normalized := by
  cases reached : files.find path with
  | error error => simp [FileSystem.canonical, reached, bind, Except.bind] at found
  | ok place =>
      have same := location_eq_of_find linkFree absolute reached
      simp only [FileSystem.canonical, reached, bind, Except.bind, pure, Except.pure,
        Except.ok.injEq] at found
      rw [← found, same, Path.normalized_eq absolute]
      exact ⟨rfl, Location.components_path fun _ => Path.ordinaryName_of_mem_plainLocation⟩

end HostHome.FileSystem

namespace HostHome.Provision

open HostHome.Config
open HostHome.FileSystem (filesWithFile)

variable {files : FileSystem} {path other canonical canonicalOther : Path} {layout : Layout}

theorem plainLocation_eq_iff (absolute : path.isAbsolute) (absoluteOther : other.isAbsolute) :
    path.plainLocation = other.plainLocation ↔ path.normalized = other.normalized := by
  rw [Path.normalized_eq absolute, Path.normalized_eq absoluteOther, List.reverse_inj]
  exact ⟨fun same => by rw [same], Location.backwards_injective⟩

section LinkFree

variable (linkFree : files.LinkFree) (absolute : path.isAbsolute)
  (absoluteOther : other.isAbsolute) (found : files.canonical path = .ok canonical)
  (foundOther : files.canonical other = .ok canonicalOther)
include linkFree absolute absoluteOther found foundOther

/-- The paths that are found have the same components exactly if the normal forms are the same. -/
theorem sameAs_iff_normalized_eq :
    canonical.sameAs canonicalOther ↔ path.normalized = other.normalized := by
  rw [← (FileSystem.components_canonical linkFree absolute found).2,
    ← (FileSystem.components_canonical linkFree absoluteOther foundOther).2]
  exact decide_eq_true_iff

theorem canonical_eq_iff_normalized_eq :
    canonical = canonicalOther ↔ path.normalized = other.normalized := by
  constructor
  · rintro rfl
    exact (sameAs_iff_normalized_eq linkFree absolute absoluteOther found foundOther).1
      (by simp [Path.sameAs])
  · intro same
    rw [(FileSystem.components_canonical linkFree absolute found).1,
      (FileSystem.components_canonical linkFree absoluteOther foundOther).1,
      (plainLocation_eq_iff absolute absoluteOther).2 same]

end LinkFree

theorem isPassThrough_eq_normalized (linkFree : files.LinkFree)
    (host : layout.hostHome.isAbsolute) (shared : layout.sharedHome.isAbsolute) :
    isPassThrough files layout =
      decide (layout.hostHome.normalized = layout.sharedHome.normalized) := by
  unfold isPassThrough
  split
  · next foundHost foundShared =>
      rw [Bool.eq_iff_iff, decide_eq_true_iff]
      exact sameAs_iff_normalized_eq linkFree host shared foundHost foundShared
  · rfl

/-- In a file system without symbolic links, two absolute paths lead to the same place exactly if
their normal forms are the same.  Whether a run passes through is then the same question in both
ways: about the normal forms of the homes in any case, and about what they lead to where both are
there. -/
theorem comparisons_agree (linkFree : files.LinkFree) (absolute : path.isAbsolute)
    (absoluteOther : other.isAbsolute) :
    (∀ canonical canonicalOther, files.canonical path = .ok canonical →
      files.canonical other = .ok canonicalOther →
        (canonical = canonicalOther ↔ path.normalized = other.normalized)) ∧
    ∀ layout : Layout, layout.hostHome = path → layout.sharedHome = other →
      isPassThrough files layout = decide (path.normalized = other.normalized) ∧
      ∀ canonical canonicalOther, files.canonical path = .ok canonical →
        files.canonical other = .ok canonicalOther →
          isPassThrough files layout = decide (canonical = canonicalOther) := by
  have agree : ∀ canonical canonicalOther, files.canonical path = .ok canonical →
      files.canonical other = .ok canonicalOther →
        (canonical = canonicalOther ↔ path.normalized = other.normalized) :=
    fun _ _ => canonical_eq_iff_normalized_eq linkFree absolute absoluteOther
  refine ⟨agree, ?_⟩
  rintro layout rfl rfl
  have lexical := isPassThrough_eq_normalized linkFree absolute absoluteOther
  refine ⟨lexical, fun canonical canonicalOther found foundOther => ?_⟩
  rw [lexical, decide_eq_decide]
  exact (agree canonical canonicalOther found foundOther).symm

/-- Homes that are one directory, by different paths. -/
def windingLayout : Layout :=
  { Layout.of (.ofText "/d") "web" systemSkeletonPath with hostHome := .ofText "//d/../d/." }

theorem winding_homes_compared :
    filesWithFile.LinkFree ∧ windingLayout.hostHome.isAbsolute ∧
      windingLayout.sharedHome.isAbsolute ∧
      (∃ home, filesWithFile.canonical windingLayout.hostHome = .ok home ∧
        filesWithFile.canonical windingLayout.sharedHome = .ok home) ∧
      windingLayout.hostHome.normalized = windingLayout.sharedHome.normalized ∧
      isPassThrough filesWithFile windingLayout := by
  have linkFree : filesWithFile.LinkFree := by
    have withDirectory := FileSystem.linkFree_empty.add
      (show ∀ inode target, Entry.directory directoryPermissions ≠ .symbolicLink inode target
        by simp) [] (Text.encode "d")
    exact withDirectory.add (by simp) _ _
  have host : windingLayout.hostHome.isAbsolute := by decide
  have shared : windingLayout.sharedHome.isAbsolute := by decide
  have foundHost : filesWithFile.canonical windingLayout.hostHome = .ok (.ofText "/d") := by cbv
  have foundShared : filesWithFile.canonical windingLayout.sharedHome = .ok (.ofText "/d") := by
    cbv
  obtain ⟨agree, passes⟩ := comparisons_agree linkFree host shared
  have same := (agree _ _ foundHost foundShared).1 rfl
  refine ⟨linkFree, host, shared, ⟨_, foundHost, foundShared⟩, same, ?_⟩
  rw [(passes windingLayout rfl rfl).1]
  exact decide_eq_true same

end HostHome.Provision
