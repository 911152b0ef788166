import HostHome.Proofs.Path.NormalForm
import HostHome.Proofs.Provision.Contexts

/-!
# Normal forms of homes

A per-host home goes on from its shared home by two names.  So does its normal form, and
the normal forms of the two homes are never the same: a run passes through only if both
homes are there and lead to the same place.
-/

namespace HostHome.Provision

open HostHome.Config

variable {home : Path} {name : String} {context : Context}

theorem normalForm_hostHomeOf (accepted : homeNameFault? name = none) :
    (hostHomeOf home name).normalForm = hostHomeOf home.normalForm name := by
  have named := ordinaryName_of_homeNameFault? accepted
  have outer := Path.normalForm_joinName ordinaryName_perHostDirectoryName home
  have inner := Path.normalForm_joinName named (home.joinText perHostDirectoryName)
  exact inner.trans (congrArg (Path.join · _) outer)

theorem normalized_hostHomeOf (accepted : homeNameFault? name = none) :
    (hostHomeOf home name).normalized =
      home.normalized ++
        [.name (Text.encode perHostDirectoryName), .name (Text.encode name)] := by
  have named := ordinaryName_of_homeNameFault? accepted
  have outer := Path.normalized_joinName ordinaryName_perHostDirectoryName home
  have inner := Path.normalized_joinName named (home.joinText perHostDirectoryName)
  rw [hostHomeOf, Path.joinText, Path.ofText, inner, Path.joinText, Path.ofText, outer,
    List.append_assoc]
  rfl

theorem Context.Prepared.normalized_ne (prepared : context.Prepared) :
    context.layout.hostHome.normalized ≠ context.layout.sharedHome.normalized := by
  obtain ⟨home, name, systemSkeleton, accepted, spelled⟩ := prepared.exists_layout
  rw [spelled]
  intro same
  have longer : (hostHomeOf home name).normalized.length = home.normalized.length :=
    congrArg List.length same
  simp [normalized_hostHomeOf accepted] at longer

/-- A run passes through only by what both homes lead to. -/
theorem Context.Prepared.exists_canonical (prepared : context.Prepared) {files : FileSystem}
    (passes : isPassThrough files context.layout) :
    ∃ place other, files.canonical context.layout.hostHome = .ok place ∧
      files.canonical context.layout.sharedHome = .ok other ∧ place.sameAs other := by
  unfold isPassThrough at passes
  split at passes
  · next place other found foundOther => exact ⟨place, other, found, foundOther, passes⟩
  · exact absurd (of_decide_eq_true passes) prepared.normalized_ne

/-- A normal form has its two dots at the beginning, if anywhere, and is its own normal form.  It
can take the place of a path from which a relative one goes on.  The normal form of a per-host home
goes on from that of the shared home by two names, so that a run never passes through because of
normal forms. -/
theorem normal_forms_go_on :
    (∀ path : Path, Path.IsNormal path.isAbsolute path.normalForm.components ∧
      path.normalForm.components = path.normalized ∧
      path.normalForm.isAbsolute = path.isAbsolute ∧
      path.normalForm.normalForm = path.normalForm) ∧
    (∀ base next : Path, next.isAbsolute = false →
      (base.join next).normalForm = (base.normalForm.join next).normalForm) ∧
    (∀ home name, homeNameFault? name = none →
      (hostHomeOf home name).normalForm = hostHomeOf home.normalForm name ∧
      (hostHomeOf home name).normalForm.components =
        home.normalForm.components ++
          [.name (Text.encode perHostDirectoryName), .name (Text.encode name)]) ∧
    ∀ context : Context, context.Prepared →
      context.layout.hostHome.normalForm.sameAs context.layout.sharedHome.normalForm = false ∧
      ∀ files, isPassThrough files context.layout →
        ∃ place other, files.canonical context.layout.hostHome = .ok place ∧
          files.canonical context.layout.sharedHome = .ok other ∧ place.sameAs other := by
  refine ⟨fun path => ?_, fun base next => base.normalForm_join, fun home name accepted => ?_,
    fun context prepared => ⟨?_, fun files => prepared.exists_canonical⟩⟩
  · refine ⟨?_, path.components_normalForm, path.isAbsolute_normalForm,
      path.normalForm_normalForm⟩
    rw [path.components_normalForm]
    exact path.isNormal_normalized
  · refine ⟨normalForm_hostHomeOf accepted, ?_⟩
    rw [Path.components_normalForm, Path.components_normalForm, normalized_hostHomeOf accepted]
  · simpa [Path.sameAs, Path.components_normalForm] using prepared.normalized_ne

/-- The normal forms of a path that winds above its beginning, and of two homes. -/
theorem winding_path_goes_on :
    (Path.ofText "a/./../../b").normalForm = .ofText "../b" ∧
      (Path.ofText "a/./../../b/../c").normalForm = .ofText "../c" ∧
      (hostHomeOf (.ofText "/a/..") "web01").normalForm = .ofText "/home_local/web01" ∧
      homeContext.layout.hostHome.normalForm.sameAs homeContext.layout.sharedHome.normalForm =
        false := by
  obtain ⟨_, goOn, hosts, homes⟩ := normal_forms_go_on
  have start : (Path.ofText "a/./../../b").normalForm = .ofText "../b" := by cbv
  refine ⟨start, ?_, ?_, (homes homeContext prepared_homeContext).1⟩
  · have joined := goOn (.ofText "a/./../../b") (.ofText "../c") (by decide)
    rw [start] at joined
    exact joined.trans (by cbv)
  · rw [(hosts (.ofText "/a/..") "web01" (by decide)).1]
    cbv

end HostHome.Provision
