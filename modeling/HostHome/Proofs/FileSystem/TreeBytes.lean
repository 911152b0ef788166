import HostHome.Proofs.FileSystem.Above
import HostHome.Proofs.FileSystem.TreePaths
import Mathlib.Data.List.Flatten

/-!
# The bytes of the paths of a tree

The paths of a tree are made of bytes of its path, in their order.  So they are no
longer than it, and whatever the system accepts as a path has a tree of paths that
it accepts.
-/

namespace HostHome

open HostHome.Text (Bytes)

namespace Path

theorem bytes_eq_pieces {path : Path} {first : Bytes} {rest : List Bytes}
    (pieces : path.pieces = first :: rest) :
    path.bytes = first ++ rest.flatMap (slash :: ·) := by
  have whole : [slash].intercalate path.pieces = path.bytes := Text.intercalate_piecesOf path.bytes
  have spelled (first : Bytes) (rest : List Bytes) :
      [slash].intercalate (first :: rest) = first ++ rest.flatMap (slash :: ·) := by
    induction rest generalizing first with
    | nil => simp
    | cons second rest ih => rw [List.intercalate_cons_cons, ih]; simp
  rw [← whole, pieces, spelled]

section Pieces

variable {pieces : List Bytes} (proper : ∀ piece ∈ pieces, piece ≠ [] ∧ slash ∉ piece)
include proper

theorem bytes_joinPieces {base : Path} (some : base.bytes ≠ [])
    (open_ : base.endsWithSlash = false) :
    (base.joinPieces pieces).bytes = base.bytes ++ pieces.flatMap (slash :: ·) := by
  unfold joinPieces
  induction pieces generalizing base with
  | nil => simp
  | cons piece rest ih =>
      obtain ⟨nonempty, noSlash⟩ := proper piece (by simp)
      have relative := isAbsolute_of_notMem noSlash
      have joined : (base.join ⟨piece⟩).bytes = base.bytes ++ slash :: piece := by
        have ends : ¬ (base.bytes = [] ∨ base.bytes.getLast? = .some slash) := by
          simpa [endsWithSlash, some] using open_
        simp [join, relative, ends]
      rw [List.foldl_cons, ih (fun other member => proper other (by simp [member]))
        (by simp [joined]), joined]
      · simp
      · rw [endsWithSlash_join base relative nonempty]
        exact endsWithSlash_of_notMem noSlash

theorem bytes_joinPieces_origin {path : Path} {first : Bytes} {rest : List Bytes}
    (spelled : pieces = first :: rest) :
    (path.origin.joinPieces pieces).bytes =
      (if path.isAbsolute then [slash] else []) ++ first ++ rest.flatMap (slash :: ·) := by
  subst spelled
  obtain ⟨nonempty, noSlash⟩ := proper first (by simp)
  have relative := isAbsolute_of_notMem noSlash
  have others : ∀ piece ∈ rest, piece ≠ [] ∧ slash ∉ piece :=
    fun piece member => proper piece (by simp [member])
  have joined : (path.origin.join ⟨first⟩).bytes =
      (if path.isAbsolute then [slash] else []) ++ first := by
    unfold origin
    split <;> simp [join, relative]
  have open_ : (path.origin.join ⟨first⟩).endsWithSlash = false := by
    rw [endsWithSlash_join _ relative nonempty]
    exact endsWithSlash_of_notMem noSlash
  have whole : path.origin.joinPieces (first :: rest) =
      (path.origin.join ⟨first⟩).joinPieces rest := rfl
  rw [whole, bytes_joinPieces others (by simp [joined, nonempty]) open_, joined]

end Pieces

/-- The pieces of a path that are not empty stand in its bytes in their order, each behind a slash
but for the first one of a relative path. -/
theorem sublist_bytes {path : Path} {first : Bytes} {rest : List Bytes}
    (pieces : path.pieces.filter (· ≠ []) = first :: rest) :
    ((if path.isAbsolute then [slash] else []) ++ first ++
      rest.flatMap (slash :: ·)).Sublist path.bytes := by
  obtain ⟨head, tail, spelled⟩ : ∃ head tail, path.pieces = head :: tail :=
    List.exists_cons_of_ne_nil (Text.piecesOf_ne_nil path.bytes)
  have bytes := bytes_eq_pieces spelled
  have within : head ∈ path.pieces := by simp [spelled]
  have free : slash ∉ head := Text.notMem_of_mem_piecesOf within
  rw [spelled] at pieces
  cases head with
  | nil =>
      have others : tail.filter (· ≠ []) = first :: rest := by simpa using pieces
      obtain ⟨second, more, rfl⟩ := List.exists_cons_of_ne_nil
        (show tail ≠ [] by rintro rfl; cases others)
      have absolute : path.isAbsolute := by simp [isAbsolute, bytes]
      have within : (first :: rest).Sublist (second :: more) := others ▸ List.filter_sublist
      rw [bytes]
      simpa [absolute] using within.flatMap (slash :: ·)
  | cons byte head =>
      have relative : path.isAbsolute = false := by
        simp only [isAbsolute, bytes, List.cons_append, List.head?_cons, Option.some.injEq,
          decide_eq_false_iff_not]
        rintro rfl
        simp at free
      obtain ⟨rfl, others⟩ : byte :: head = first ∧ tail.filter (· ≠ []) = rest := by
        simpa using pieces
      have within : rest.Sublist tail := others ▸ List.filter_sublist
      rw [bytes, relative]
      simpa using within.flatMap (slash :: ·)

end Path

namespace FileSystem

variable {path upper : Path}

theorem exists_joinPieces_of_mem_growingPaths {pieces : List Bytes}
    (member : upper ∈ growingPaths path pieces) :
    ∃ first front, first :: front <+: pieces ∧ upper = path.joinPieces (first :: front) := by
  induction pieces generalizing path with
  | nil => cases member
  | cons piece rest ih =>
      rcases List.mem_cons.1 member with rfl | member
      · exact ⟨piece, [], List.prefix_append [piece] rest, rfl⟩
      · obtain ⟨first, front, within, rfl⟩ := ih member
        exact ⟨piece, first :: front, List.cons_prefix_cons.2 ⟨rfl, within⟩, rfl⟩

/-- The bytes of the paths of a tree are bytes of its path, in their order. -/
theorem bytes_of_mem_treeSteps (member : upper ∈ treeSteps path) :
    upper.bytes ≠ [] ∧ upper.bytes.Sublist path.bytes := by
  rw [treeSteps_eq] at member
  obtain ⟨first, front, ⟨behind, spelled⟩, rfl⟩ := exists_joinPieces_of_mem_growingPaths member
  have proper : ∀ piece ∈ first :: front, piece ≠ [] ∧ slash ∉ piece := by
    intro piece within
    have inPieces : piece ∈ path.pieces.filter (· ≠ []) := by
      rw [← spelled]
      exact List.mem_append_left behind within
    exact Path.notMem_of_mem_pieces inPieces
  rw [Path.bytes_joinPieces_origin proper rfl]
  refine ⟨by simp [(proper first (by simp)).1], ?_⟩
  refine List.Sublist.trans ?_ (Path.sublist_bytes spelled.symm)
  have longer : front.Sublist (front ++ behind) := List.sublist_append_left front behind
  exact (List.Sublist.refl _).append (longer.flatMap (slash :: ·))

/-- Whatever is accepted as a path has a tree of paths that are accepted. -/
theorem checkPath_of_mem_treeSteps (accepted : checkPath path = .ok ())
    (member : upper ∈ treeSteps path) : checkPath upper = .ok () := by
  obtain ⟨nonempty, within⟩ := bytes_of_mem_treeSteps member
  rw [checkPath_ok_iff] at accepted ⊢
  obtain ⟨noZero, _, short⟩ := accepted
  exact ⟨fun zero => noZero (within.subset zero), nonempty, Nat.le_trans within.length_le short⟩

end FileSystem

end HostHome
