import HostHome.Proofs.Provision.Transfers

/-!
# Where sources lie

The source of a directive is its path in the shared home, unless the path still
begins with a slash when one was stripped.  Such a path is the source itself, and
the shared home plays no part in it.
-/

namespace HostHome.Provision

open HostHome.Config

variable {file : Path} {line : Line} {directive : Directive}

def HasTwoSlashes (line : Line) : Prop := ['/', '/'] <+: line.text.toList.drop 2

instance (line : Line) : Decidable (HasTwoSlashes line) := by
  unfold HasTwoSlashes
  infer_instance

/-- One slash is stripped, so the path of a directive is absolute if its line has two. -/
theorem isAbsolute_iff_hasTwoSlashes (found : (Directive.ofLine file line).1 = some directive) :
    (Path.ofText directive.path).isAbsolute ↔ HasTwoSlashes line := by
  have states := (states_of_read (ofLine_fst_eq_some_iff.1 found).1).1
  rw [Path.isAbsolute_ofText_iff, states.path, statedPath, HasTwoSlashes]
  cases line.text.toList.drop 2 with
  | nil => simp
  | cons first more =>
      by_cases slashed : first = '/'
      · cases more <;> simp [slashed, eq_comm]
      · simp [slashed, Ne.symm slashed]

/-- The source of a directive lies under the shared home, unless its line has two slashes: then the
source is the absolute path that is left when one of them is stripped, and the shared home counts
only if this path happens to begin with it. -/
theorem sharedHome_isPrefix_sourceOf_iff
    (found : (Directive.ofLine file line).1 = some directive) (roots : TransferRoots) :
    (roots.source.components <+: (roots.sourceOf directive).components ↔
      ¬ HasTwoSlashes line ∨
        roots.source.components <+: (Path.ofText directive.path).components) ∧
      (¬ HasTwoSlashes line → ∃ middle, (middle = [] ∨ middle = [slash]) ∧
        (roots.sourceOf directive).bytes =
          roots.source.bytes ++ middle ++ Text.encode directive.path) ∧
      (HasTwoSlashes line → roots.sourceOf directive = .ofText directive.path) := by
  have absolute := isAbsolute_iff_hasTwoSlashes found
  by_cases slashes : HasTwoSlashes line
  · have whole : roots.sourceOf directive = .ofText directive.path := by
      simp only [TransferRoots.sourceOf, Path.joinText, Path.join, absolute.2 slashes, if_true]
    simp [slashes, whole]
  · have relative : (Path.ofText directive.path).isAbsolute = false := by
      simpa using mt absolute.1 slashes
    have above : roots.source.components <+: (roots.sourceOf directive).components :=
      Path.components_isPrefix_join roots.source relative
    refine ⟨iff_of_true above (.inl slashes), fun _ => Path.bytes_join roots.source relative, ?_⟩
    exact fun present => absurd present slashes

theorem source_under_sharedHome :
    let directive : Directive := ⟨.symbolicLink, ".ssh", 1⟩
    let roots : TransferRoots := ⟨.ofText "/home", .ofText "/home/home_local/web01"⟩
    (Directive.ofLine (.ofText "/transfer") ⟨1, "L /.ssh"⟩).1 = some directive ∧
      ¬ HasTwoSlashes ⟨1, "L /.ssh"⟩ ∧
      roots.source.components <+: (roots.sourceOf directive).components := by
  have found : (Directive.ofLine (.ofText "/transfer") ⟨1, "L /.ssh"⟩).1 =
      some ⟨.symbolicLink, ".ssh", 1⟩ := by decide
  have single : ¬ HasTwoSlashes ⟨1, "L /.ssh"⟩ := by decide
  refine ⟨found, single, ?_⟩
  exact (sharedHome_isPrefix_sourceOf_iff found ⟨.ofText "/home", _⟩).1.2 (.inl single)

/-- A directive whose source is not in the shared home. -/
theorem not_sharedHome_isPrefix_sourceOf :
    ¬ ∀ (file : Path) (line : Line) (directive : Directive) (roots : TransferRoots),
      (Directive.ofLine file line).1 = some directive →
        roots.source.components <+: (roots.sourceOf directive).components := by
  intro under
  have found : (Directive.ofLine (.ofText "/transfer") ⟨1, "L //.ssh"⟩).1 =
      some ⟨.symbolicLink, "/.ssh", 1⟩ := by decide
  have above := under _ _ _ ⟨.ofText "/home", .ofText "/home/home_local/web01"⟩ found
  revert above
  decide

end HostHome.Provision
