import HostHome.FileSystem.Query
import HostHome.Path.Normal
import HostHome.Proofs.Path.Components

/-!
# Normal forms of absolute paths

The normal form of an absolute path is a location: the names that are left when every
two dots have taken back the name before them.  The path that leads to this location
without dots and links has the same components.
-/

namespace HostHome

open HostHome.Text (Bytes)

/-- Where a step leads from a location, by names alone. -/
def Step.goFrom (location : Location) : Step → Location
  | .stay | .slash => location
  | .up => location.tail
  | .name own => own :: location

def Location.backwards (location : Location) : List Component :=
  location.map .name ++ [.root]

namespace Path

variable {path : Path}

/-- Where an absolute path leads, by names alone. -/
def plainLocation (path : Path) : Location := path.course.foldl Step.goFrom []

/-- A piece does to a normal form what its step does to the location. -/
theorem foldl_normalStep (pieces : List Bytes) (location : Location) :
    (pieces.filterMap componentOf?).foldl normalStep location.backwards =
      ((pieces.filterMap Step.ofPiece?).foldl Step.goFrom location).backwards := by
  induction pieces generalizing location with
  | nil => rfl
  | cons piece pieces ih =>
      by_cases blank : piece = []
      · simpa [blank, componentOf?, Step.ofPiece?] using ih location
      · by_cases isDot : piece = [dot]
        · simpa [isDot, componentOf?, Step.ofPiece?, Step.goFrom] using ih location
        · by_cases isDots : piece = [dot, dot]
          · have back : normalStep location.backwards .up =
                (Step.goFrom location .up).backwards := by
              cases location <;> rfl
            simpa [isDots, dot, componentOf?, Step.ofPiece?, back] using
              ih (Step.goFrom location .up)
          · have further : normalStep location.backwards (.name piece) =
                (Step.goFrom location (.name piece)).backwards := rfl
            simpa [blank, isDot, isDots, componentOf?, Step.ofPiece?, further] using
              ih (Step.goFrom location (.name piece))

theorem normalized_eq (absolute : path.isAbsolute) :
    path.normalized = path.plainLocation.backwards.reverse := by
  have begins : normalStep [] .root = Location.backwards [] := rfl
  rw [normalized, components, startOf, if_pos absolute, List.singleton_append, List.foldl_cons,
    begins, foldl_normalStep]
  rfl

theorem ordinaryName_of_mem_foldl {steps : List Step} {location : Location}
    (ordinary : ∀ name ∈ location, OrdinaryName name)
    (names : ∀ name, .name name ∈ steps → OrdinaryName name) :
    ∀ name ∈ steps.foldl Step.goFrom location, OrdinaryName name := by
  induction steps generalizing location with
  | nil => exact ordinary
  | cons step steps ih =>
      refine ih ?_ fun name member => names name (by simp [member])
      cases step with
      | stay | slash => exact ordinary
      | up => exact fun name member => ordinary name (List.mem_of_mem_tail member)
      | name first =>
          intro name member
          rcases List.mem_cons.1 member with rfl | member
          · exact names _ (by simp)
          · exact ordinary name member

theorem ordinaryName_of_mem_course {name : Bytes} (member : .name name ∈ path.course) :
    OrdinaryName name := by
  obtain ⟨piece, within, means⟩ := List.mem_filterMap.1 member
  have noSlash := Text.notMem_of_mem_piecesOf within
  unfold Step.ofPiece? at means
  repeat' split at means
  all_goals cases means
  exact ⟨‹_›, ‹_›, ‹_›, noSlash⟩

theorem ordinaryName_of_mem_plainLocation {name : Bytes} (member : name ∈ path.plainLocation) :
    OrdinaryName name :=
  ordinaryName_of_mem_foldl (by simp) (fun _ => ordinaryName_of_mem_course) name member

end Path

namespace Location

variable {location : Location} {name : Bytes}

theorem path_cons (ordinary : ∀ own ∈ name :: location, OrdinaryName own) :
    path (name :: location) = (path location).join ⟨name⟩ := by
  have relative := Path.isAbsolute_ofName (ordinary name (by simp))
  unfold Path.join
  rw [if_neg (by simp [relative])]
  cases location with
  | nil => simp [path]
  | cons own above =>
      obtain ⟨some, _, _, noSlash⟩ := ordinary own (by simp)
      have last : (path (own :: above)).bytes.getLast? = own.getLast? := by
        simp [path, List.getLast?_append, List.getLast?_cons,
          List.getLast?_eq_some_getLast some]
      rw [if_neg]
      · simp [path]
      · rw [not_or, last]
        refine ⟨by simp [path], fun slashed => noSlash (List.mem_of_getLast? slashed)⟩

theorem components_path (ordinary : ∀ own ∈ location, OrdinaryName own) :
    location.path.components = location.backwards.reverse := by
  induction location with
  | nil => rfl
  | cons name location ih =>
      have above := ih fun own member => ordinary own (by simp [member])
      rw [path_cons ordinary, Path.components_joinName (ordinary name (by simp)), above]
      simp [backwards]

theorem backwards_injective {other : Location} (same : location.backwards = other.backwards) :
    location = other := by
  have names := List.append_cancel_right same
  exact (List.map_inj_right fun _ _ => Component.name.inj).1 names

end Location

end HostHome
