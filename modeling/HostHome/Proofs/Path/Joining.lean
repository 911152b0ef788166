import HostHome.Config.HomeName
import HostHome.FileSystem.Walk
import HostHome.Proofs.Text.Encoding
import HostHome.Proofs.Text.Pieces

/-!
# Joined paths

What a path is made of after another path or a name has been joined to it: its
pieces, the steps along it, and its components.
-/

namespace HostHome

open HostHome.Text (Bytes)

/-- Bytes that name an entry of a directory. -/
def OrdinaryName (name : Bytes) : Prop :=
  name ≠ [] ∧ name ≠ [dot] ∧ name ≠ [dot, dot] ∧ slash ∉ name

instance (name : Bytes) : Decidable (OrdinaryName name) := by
  unfold OrdinaryName
  infer_instance

/-- The name of a per-host home is the name of a directory. -/
theorem ordinaryName_of_homeNameFault? {name : String}
    (accepted : Config.homeNameFault? name = none) : OrdinaryName (Text.encode name) := by
  unfold Config.homeNameFault? at accepted
  split at accepted
  · cases accepted
  · next nonempty =>
      split at accepted
      · cases accepted
      · next notDots =>
          split at accepted
          · cases accepted
          · next noSlash =>
              obtain ⟨notDot, notDots⟩ := not_or.1 notDots
              refine ⟨?_, ?_, ?_, ?_⟩
              · exact fun same => nonempty (Text.encode_injective (same : _ = Text.encode ""))
              · exact fun same => notDot (Text.encode_injective (same : _ = Text.encode "."))
              · exact fun same => notDots (Text.encode_injective (same : _ = Text.encode ".."))
              · exact fun member => noSlash (Text.mem_toList_of_mem_encode member (by decide))

namespace Path

/-- The steps along a path, without a slash at its end. -/
def course (path : Path) : List Step := path.pieces.filterMap Step.ofPiece?

theorem steps_eq (path : Path) :
    path.steps = path.course ++ if path.endsWithSlash then [.slash] else [] := rfl

theorem ofPiece?_ne_slash (piece : Bytes) : Step.ofPiece? piece ≠ some .slash := by
  unfold Step.ofPiece?
  repeat' split
  all_goals simp

theorem slash_notMem_course (path : Path) : Step.slash ∉ path.course := by
  intro member
  obtain ⟨piece, _, meaning⟩ := List.mem_filterMap.1 member
  exact ofPiece?_ne_slash piece meaning

@[simp]
theorem withoutSlash_steps (path : Path) : FileSystem.withoutSlash path.steps = path.course := by
  rw [steps_eq]
  unfold FileSystem.withoutSlash
  split
  · simp
  · rw [if_neg, List.append_nil]
    intro last
    simp only [List.append_nil] at last
    exact slash_notMem_course path (List.mem_of_getLast? last)

/-- The pieces of a joined path mean what the pieces of both paths mean. -/
theorem filterMap_pieces_join {β : Type} {meaning : Bytes → Option β} (blank : meaning [] = none)
    (base : Path) {next : Path} (relative : next.isAbsolute = false) :
    (base.join next).pieces.filterMap meaning =
      base.pieces.filterMap meaning ++ next.pieces.filterMap meaning := by
  unfold join
  rw [if_neg (by simp [relative])]
  split
  · next ends =>
      rcases ends with empty | slashed
      · simp [pieces, empty, Text.piecesOf, blank]
      · obtain ⟨front, bytes⟩ := List.getLast?_eq_some_iff.1 slashed
        simp [pieces, bytes, Text.piecesOf_append_separator, Text.piecesOf, blank]
  · simp [pieces, Text.piecesOf_append_separator]

theorem isAbsolute_join (base : Path) {next : Path} (relative : next.isAbsolute = false) :
    (base.join next).isAbsolute = base.isAbsolute := by
  unfold join
  rw [if_neg (by simp [relative])]
  obtain ⟨bytes⟩ := base
  cases bytes with
  | nil => simpa [isAbsolute] using relative
  | cons byte bytes => split <;> simp [isAbsolute]

theorem bytes_join (base : Path) {next : Path} (relative : next.isAbsolute = false) :
    ∃ middle, (middle = [] ∨ middle = [slash]) ∧
      (base.join next).bytes = base.bytes ++ middle ++ next.bytes := by
  unfold join
  rw [if_neg (by simp [relative])]
  split
  · exact ⟨[], by simp⟩
  · exact ⟨[slash], by simp⟩

theorem endsWithSlash_join (base : Path) {next : Path} (relative : next.isAbsolute = false)
    (nonempty : next.bytes ≠ []) : (base.join next).endsWithSlash = next.endsWithSlash := by
  obtain ⟨middle, _, bytes⟩ := bytes_join base relative
  unfold endsWithSlash
  rw [bytes, List.getLast?_append, List.getLast?_eq_some_getLast nonempty]
  rfl

theorem isAbsolute_ofText_iff (text : String) :
    (ofText text).isAbsolute ↔ text.toList.head? = some '/' := by
  have spelled : (ofText text).isAbsolute ↔
      (Text.encodeChars text.toList).head? = some slash := decide_eq_true_iff
  rw [spelled]
  constructor
  · exact fun begins => Text.head?_encodeChars_eq_some begins (by decide)
  · intro begins
    obtain ⟨more, whole⟩ := List.head?_eq_some_iff.1 begins
    rw [whole]
    rfl

theorem endsWithSlash_of_notMem {piece : Bytes} (noSlash : slash ∉ piece) :
    (Path.mk piece).endsWithSlash = false := by
  simp only [endsWithSlash, decide_eq_false_iff_not]
  exact fun last => noSlash (List.mem_of_getLast? last)

theorem isAbsolute_of_notMem {piece : Bytes} (noSlash : slash ∉ piece) :
    (Path.mk piece).isAbsolute = false := by
  simp only [isAbsolute, decide_eq_false_iff_not]
  exact fun first => noSlash (List.mem_of_head? first)

section Names

variable {name : Bytes} (ordinary : OrdinaryName name)
include ordinary

theorem isAbsolute_ofName : (Path.mk name).isAbsolute = false :=
  isAbsolute_of_notMem ordinary.2.2.2

theorem pieces_ofName : (Path.mk name).pieces = [name] := Text.piecesOf_of_notMem ordinary.2.2.2

theorem course_ofName : (Path.mk name).course = [.name name] := by
  have pieces := pieces_ofName ordinary
  obtain ⟨nonempty, notDot, notDots, _⟩ := ordinary
  simp [course, pieces, Step.ofPiece?, nonempty, notDot, notDots]

@[simp]
theorem isAbsolute_joinName (base : Path) : (base.join ⟨name⟩).isAbsolute = base.isAbsolute :=
  isAbsolute_join base (isAbsolute_ofName ordinary)

theorem course_joinName (base : Path) :
    (base.join ⟨name⟩).course = base.course ++ [.name name] := by
  unfold course
  rw [filterMap_pieces_join rfl base (isAbsolute_ofName ordinary)]
  exact congrArg (base.course ++ ·) (course_ofName ordinary)

theorem bytes_joinName (base : Path) :
    ∃ middle, (base.join ⟨name⟩).bytes = base.bytes ++ middle ++ name := by
  obtain ⟨middle, _, bytes⟩ := bytes_join base (isAbsolute_ofName ordinary)
  exact ⟨middle, bytes⟩

theorem bytes_joinName_ne_nil (base : Path) : (base.join ⟨name⟩).bytes ≠ [] := by
  obtain ⟨middle, bytes⟩ := bytes_joinName ordinary base
  rw [bytes]
  simp [ordinary.1]

theorem endsWithSlash_joinName (base : Path) : (base.join ⟨name⟩).endsWithSlash = false := by
  have relative := isAbsolute_ofName ordinary
  obtain ⟨nonempty, _, _, noSlash⟩ := ordinary
  rw [endsWithSlash_join base relative nonempty]
  exact endsWithSlash_of_notMem noSlash

theorem steps_joinName (base : Path) : (base.join ⟨name⟩).steps = base.course ++ [.name name] := by
  rw [steps_eq, endsWithSlash_joinName ordinary, course_joinName ordinary]
  simp

theorem startOf_joinName (base : Path) (place : Location) :
    FileSystem.startOf place (base.join ⟨name⟩) = FileSystem.startOf place base := by
  simp [FileSystem.startOf, isAbsolute_joinName ordinary]

end Names

end Path

end HostHome
