import HostHome.FileSystem.Tree
import HostHome.Proofs.Path.Components

/-!
# The paths of a tree

A tree of directories is created at the beginnings of its path.  They are listed
from the outermost one to the path itself, or upwards from the path.
-/

namespace HostHome

open HostHome.Text (Bytes)

namespace Path

/-- A path that is spelled by the first components of another one. -/
structure Begins (upper path : Path) : Prop where
  components : upper.components <+: path.components
  open_ : upper.course ≠ [] → upper.endsWithSlash = false

def origin (path : Path) : Path := if path.isAbsolute then ⟨[slash]⟩ else ⟨[]⟩

def joinPieces (path : Path) (pieces : List Bytes) : Path :=
  pieces.foldl (fun path piece => path.join ⟨piece⟩) path

/-- The path without repeated slashes. -/
def plain (path : Path) : Path := path.origin.joinPieces (path.pieces.filter (· ≠ []))

theorem isAbsolute_origin (path : Path) : path.origin.isAbsolute = path.isAbsolute := by
  unfold origin
  split
  · next absolute => rw [absolute]; rfl
  · next relative => simp only [Bool.not_eq_true] at relative; rw [relative]; rfl

theorem filterMap_pieces_origin {β : Type} {meaning : Bytes → Option β} (blank : meaning [] = none)
    (path : Path) : path.origin.pieces.filterMap meaning = [] := by
  unfold origin
  split <;> simp [pieces, Text.piecesOf, blank]

section Pieces

variable {pieces : List Bytes} (noSlash : ∀ piece ∈ pieces, slash ∉ piece)
include noSlash

theorem isAbsolute_joinPieces (base : Path) :
    (base.joinPieces pieces).isAbsolute = base.isAbsolute := by
  unfold joinPieces
  induction pieces generalizing base with
  | nil => rfl
  | cons piece rest ih =>
      rw [List.foldl_cons, ih fun other member => noSlash other (by simp [member])]
      exact isAbsolute_join base (isAbsolute_of_notMem (noSlash piece (by simp)))

theorem filterMap_pieces_joinPieces {β : Type} {meaning : Bytes → Option β}
    (blank : meaning [] = none) (base : Path) :
    (base.joinPieces pieces).pieces.filterMap meaning =
      base.pieces.filterMap meaning ++ pieces.filterMap meaning := by
  unfold joinPieces
  induction pieces generalizing base with
  | nil => simp
  | cons piece rest ih =>
      have slashless := noSlash piece (by simp)
      have single : (Path.mk piece).pieces = [piece] := Text.piecesOf_of_notMem slashless
      rw [List.foldl_cons, ih fun other member => noSlash other (by simp [member]),
        filterMap_pieces_join blank base (isAbsolute_of_notMem slashless), single,
        List.append_assoc, ← List.filterMap_append]
      rfl

end Pieces

theorem filterMap_filter_ne_nil {β : Type} {meaning : Bytes → Option β} (blank : meaning [] = none)
    (pieces : List Bytes) :
    (pieces.filter (· ≠ [])).filterMap meaning = pieces.filterMap meaning := by
  induction pieces with
  | nil => rfl
  | cons piece rest ih =>
      by_cases empty : piece = []
      · simpa [empty, blank] using ih
      · rw [List.filter_cons_of_pos (by simpa using empty), List.filterMap_cons,
          List.filterMap_cons, ih]

theorem notMem_of_mem_pieces {path : Path} {piece : Bytes}
    (member : piece ∈ path.pieces.filter (· ≠ [])) : piece ≠ [] ∧ slash ∉ piece := by
  obtain ⟨within, nonempty⟩ := List.mem_filter.1 member
  exact ⟨by simpa using nonempty, Text.notMem_of_mem_piecesOf within⟩

theorem isAbsolute_plain (path : Path) : path.plain.isAbsolute = path.isAbsolute := by
  unfold plain
  rw [isAbsolute_joinPieces fun piece member => (notMem_of_mem_pieces member).2, isAbsolute_origin]

theorem course_plain (path : Path) : path.plain.course = path.course := by
  unfold plain course
  rw [filterMap_pieces_joinPieces (fun piece member => (notMem_of_mem_pieces member).2) rfl,
    filterMap_pieces_origin rfl, filterMap_filter_ne_nil rfl, List.nil_append]

theorem pieces_joinName {name : Bytes} (ordinary : OrdinaryName name) (base : Path) :
    (base.join ⟨name⟩).pieces.filter (· ≠ []) = base.pieces.filter (· ≠ []) ++ [name] := by
  have blank : Option.guard (· ≠ []) ([] : Bytes) = none := rfl
  have joined := filterMap_pieces_join blank base (isAbsolute_ofName ordinary)
  rw [List.filterMap_eq_filter, pieces_ofName ordinary] at joined
  rw [joined]
  simp [ordinary.1]

theorem origin_joinName {name : Bytes} (ordinary : OrdinaryName name) (base : Path) :
    (base.join ⟨name⟩).origin = base.origin := by
  unfold origin
  rw [isAbsolute_joinName ordinary]

theorem plain_joinName {name : Bytes} (ordinary : OrdinaryName name) (base : Path) :
    (base.join ⟨name⟩).plain = base.plain.join ⟨name⟩ := by
  unfold plain
  rw [pieces_joinName ordinary, origin_joinName ordinary, joinPieces, List.foldl_append]
  rfl

end Path

namespace FileSystem

theorem growingPaths_append (path : Path) (pieces : List Bytes) (last : Bytes) :
    growingPaths path (pieces ++ [last]) =
      growingPaths path pieces ++ [(path.joinPieces pieces).join ⟨last⟩] := by
  induction pieces generalizing path with
  | nil => rfl
  | cons piece rest ih => simp [growingPaths, ih, Path.joinPieces]

theorem treeSteps_eq (path : Path) :
    treeSteps path = growingPaths path.origin (path.pieces.filter (· ≠ [])) := rfl

theorem treeSteps_joinName {name : Bytes} (ordinary : OrdinaryName name) (base : Path) :
    treeSteps (base.join ⟨name⟩) = treeSteps base ++ [base.plain.join ⟨name⟩] := by
  rw [treeSteps_eq, treeSteps_eq, Path.pieces_joinName ordinary, Path.origin_joinName ordinary,
    growingPaths_append]
  rfl

theorem course_of_mem_growingPaths {path upper : Path} {pieces : List Bytes}
    (proper : ∀ piece ∈ pieces, piece ≠ [] ∧ slash ∉ piece)
    (member : upper ∈ growingPaths path pieces) :
    upper.isAbsolute = path.isAbsolute ∧ ∃ front, front <+: pieces ∧
      upper.course = path.course ++ front.filterMap Step.ofPiece? := by
  induction pieces generalizing path with
  | nil => cases member
  | cons piece rest ih =>
      have noSlash := (proper piece (by simp)).2
      have relative := Path.isAbsolute_of_notMem noSlash
      have single : (Path.mk piece).pieces = [piece] := Text.piecesOf_of_notMem noSlash
      have absolute := Path.isAbsolute_join path relative
      have joined :
          (path.join ⟨piece⟩).course = path.course ++ [piece].filterMap Step.ofPiece? := by
        rw [← single]
        exact Path.filterMap_pieces_join rfl path relative
      rcases List.mem_cons.1 member with rfl | member
      · exact ⟨absolute, [piece], List.prefix_append [piece] rest, joined⟩
      · obtain ⟨same, front, within, steps⟩ :=
          ih (fun other member => proper other (by simp [member])) member
        refine ⟨same.trans absolute, piece :: front, List.cons_prefix_cons.2 ⟨rfl, within⟩, ?_⟩
        rw [steps, joined, List.append_assoc, ← List.filterMap_append]
        rfl

/-- The steps along a path of a tree are the first steps along its path. -/
theorem course_of_mem_treeSteps {path upper : Path} (member : upper ∈ treeSteps path) :
    upper.isAbsolute = path.isAbsolute ∧ upper.course <+: path.course := by
  rw [treeSteps_eq] at member
  obtain ⟨absolute, front, within, steps⟩ :=
    course_of_mem_growingPaths (fun piece => Path.notMem_of_mem_pieces) member
  have start : path.origin.course = [] := Path.filterMap_pieces_origin rfl path
  refine ⟨absolute.trans (Path.isAbsolute_origin path), ?_⟩
  have blank : Step.ofPiece? [] = none := rfl
  have proper := Path.filterMap_filter_ne_nil blank path.pieces
  rw [steps, start, List.nil_append, Path.course, ← proper]
  exact within.filterMap _

theorem components_of_mem_growingPaths {path upper : Path} (nonempty : path.bytes ≠ [])
    {pieces : List Bytes} (proper : ∀ piece ∈ pieces, piece ≠ [] ∧ slash ∉ piece)
    (member : upper ∈ growingPaths path pieces) :
    upper.endsWithSlash = false ∧ ∃ front, front <+: pieces ∧
      upper.components = path.components ++ front.filterMap Path.componentOf? := by
  induction pieces generalizing path with
  | nil => cases member
  | cons piece rest ih =>
      obtain ⟨some, noSlash⟩ := proper piece (by simp)
      have relative := Path.isAbsolute_of_notMem noSlash
      have single : (Path.mk piece).pieces = [piece] := Text.piecesOf_of_notMem noSlash
      have joined := Path.components_join nonempty relative
      rw [single] at joined
      rcases List.mem_cons.1 member with rfl | member
      · refine ⟨?_, [piece], List.prefix_append [piece] rest, joined⟩
        rw [Path.endsWithSlash_join path relative some]
        exact Path.endsWithSlash_of_notMem noSlash
      · obtain ⟨ends, front, within, spelled⟩ := ih (Path.bytes_join_ne_nil nonempty relative)
          (fun other member => proper other (by simp [member])) member
        refine ⟨ends, piece :: front, List.cons_prefix_cons.2 ⟨rfl, within⟩, ?_⟩
        rw [spelled, joined, List.append_assoc, ← List.filterMap_append]
        rfl

/-- A relative path has the first one of its pieces, and a dot there is a component. -/
theorem head?_pieces_of_relative {path : Path} (relative : path.isAbsolute = false)
    {piece : Bytes} {rest : List Bytes}
    (pieces : path.pieces.filter (· ≠ []) = piece :: rest) : path.pieces.head? = some piece := by
  obtain ⟨bytes⟩ := path
  cases bytes with
  | nil => simp [Path.pieces, Text.piecesOf] at pieces
  | cons byte bytes =>
      have inner : byte ≠ slash := by
        rintro rfl
        simp [Path.isAbsolute] at relative
      simp only [Path.pieces, Text.piecesOf, if_neg inner] at pieces ⊢
      split at pieces
      · simp only [ne_eq, reduceCtorEq, not_false_eq_true, decide_true, List.filter_cons_of_pos,
          List.cons.injEq] at pieces
        simp [pieces.1]
      · simp only [ne_eq, reduceCtorEq, not_false_eq_true, decide_true, List.filter_cons_of_pos,
          List.cons.injEq] at pieces
        simp [pieces.1]

/-- The paths of a tree begin its path. -/
theorem begins_of_mem_treeSteps {path upper : Path} (member : upper ∈ treeSteps path) :
    upper.Begins path := by
  have proper : ∀ piece ∈ path.pieces.filter (· ≠ []), piece ≠ [] ∧ slash ∉ piece :=
    fun piece => Path.notMem_of_mem_pieces
  have components : path.components =
      path.startOf ++ (path.pieces.filter (· ≠ [])).filterMap Path.componentOf? := by
    rw [Path.filterMap_filter_ne_nil rfl]
    rfl
  rw [treeSteps_eq] at member
  by_cases absolute : path.isAbsolute
  · have origin : path.origin = ⟨[slash]⟩ := if_pos absolute
    have start : path.startOf = [.root] := if_pos absolute
    rw [origin] at member
    obtain ⟨ends, front, within, spelled⟩ :=
      components_of_mem_growingPaths (by decide) proper member
    refine ⟨?_, fun _ => ends⟩
    rw [spelled, components, start]
    exact (List.prefix_append_right_inj _).2 (within.filterMap _)
  · have origin : path.origin = ⟨[]⟩ := if_neg absolute
    rw [origin] at member
    cases pieces : path.pieces.filter (· ≠ []) with
    | nil => rw [pieces] at member; cases member
    | cons piece rest =>
        rw [pieces] at proper member components
        obtain ⟨some, noSlash⟩ := proper piece (by simp)
        have relative := Path.isAbsolute_of_notMem noSlash
        have single : (Path.mk piece).pieces = [piece] := Text.piecesOf_of_notMem noSlash
        have first : (Path.mk []).join ⟨piece⟩ = ⟨piece⟩ := by simp [Path.join, relative]
        have start : path.startOf = (Path.mk piece).startOf := by
          unfold Path.startOf
          rw [if_neg absolute, relative, single,
            head?_pieces_of_relative (by simpa using absolute) pieces]
          rfl
        have firstComponents : (Path.mk piece).components =
            path.startOf ++ [piece].filterMap Path.componentOf? := by
          rw [start, ← single]
          rfl
        rw [growingPaths, first] at member
        rcases List.mem_cons.1 member with rfl | member
        · refine ⟨?_, fun _ => Path.endsWithSlash_of_notMem noSlash⟩
          rw [firstComponents, components]
          exact (List.prefix_append_right_inj _).2
            ((List.prefix_append [piece] rest).filterMap _)
        · obtain ⟨ends, front, within, spelled⟩ := components_of_mem_growingPaths some
            (fun other member => proper other (by simp [member])) member
          refine ⟨?_, fun _ => ends⟩
          rw [spelled, firstComponents, components, List.append_assoc, ← List.filterMap_append]
          have longer : piece :: front <+: piece :: rest := List.cons_prefix_cons.2 ⟨rfl, within⟩
          exact (List.prefix_append_right_inj _).2 (longer.filterMap _)

/-- The paths above a path are spelled by its first components, but not by all of them. -/
theorem exists_of_mem_pathsAbove {reversed : List Component} {upper : Path}
    (member : upper ∈ pathsAbove reversed) :
    ∃ first, first ≠ [] ∧ first <+: reversed.tail.reverse ∧ upper = Path.ofComponents first := by
  induction reversed with
  | nil => cases member
  | cons component above ih =>
      rw [pathsAbove] at member
      split at member
      · cases member
      · next some =>
          rcases List.mem_cons.1 member with rfl | member
          · exact ⟨above.reverse, by simpa using some, List.prefix_refl _, rfl⟩
          · obtain ⟨first, nonempty, within, rfl⟩ := ih member
            refine ⟨first, nonempty, within.trans ?_, rfl⟩
            rw [List.tail_cons, List.reverse_prefix]
            exact List.tail_suffix above

theorem begins_of_mem_pathsAbove {path upper : Path}
    (member : upper ∈ pathsAbove path.components.reverse) : upper.Begins path := by
  obtain ⟨first, nonempty, within, rfl⟩ := exists_of_mem_pathsAbove member
  have upperComponents : first <+: path.components := by
    apply within.trans
    rw [List.tail_reverse, List.reverse_reverse]
    exact List.dropLast_prefix path.components
  have spells := Path.spells_ofComponents upperComponents nonempty
  exact ⟨by rw [spells.components_eq]; exact upperComponents, spells.open_⟩

theorem pathsUpward_joinNames {outer last : Bytes} (ordinaryOuter : OrdinaryName outer)
    (ordinaryLast : OrdinaryName last) (base : Path) :
    ∃ rest, pathsUpward ((base.join ⟨outer⟩).join ⟨last⟩) =
      (base.join ⟨outer⟩).join ⟨last⟩ ::
        (Path.ofComponents base.components).join ⟨outer⟩ :: rest := by
  have components : ((base.join ⟨outer⟩).join ⟨last⟩).components.reverse =
      .name last :: .name outer :: base.components.reverse := by
    rw [Path.components_joinName ordinaryLast, Path.components_joinName ordinaryOuter]
    simp
  have upper : Path.ofComponents (.name outer :: base.components.reverse).reverse =
      (Path.ofComponents base.components).join ⟨outer⟩ := by
    rw [List.reverse_cons, List.reverse_reverse, Path.ofComponents_eq, List.foldl_append,
      ← Path.ofComponents_eq]
    rfl
  rw [pathsUpward, components, pathsAbove, if_neg (by simp), upper]
  exact ⟨_, rfl⟩

end FileSystem

end HostHome
