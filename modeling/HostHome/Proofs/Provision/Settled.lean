import HostHome.Proofs.Provision.WriteSet

/-!
# Settled homes

After all steps have succeeded everything that they make sure of is there, though
not every step has seen to it alone: a step that met something in its way is known
to have come to its goal only because a later step has succeeded.
-/

namespace HostHome.Provision

open HostHome.Config
open HostHome.FileSystem (Allowance Grows)

/-- Nothing is left to do for the steps. -/
structure Settled (context : Context) (files : FileSystem) : Prop where
  topLink : files.hasEntry context.layout.topLink
  skeleton : files.isDirectory context.layout.skeleton ∨
    files.ensureTree context.layout.skeleton = (files, .ok ())
  transferFile : files.hasEntry context.layout.transferFile
  marker : files.hasEntry context.layout.marker

variable {context : Context} {files later : FileSystem} {world after : World} {base : Path}
  {name : Text.Bytes}

theorem isDirectory_of_hasEntry (ordinary : OrdinaryName name) (nonempty : base.bytes ≠ [])
    (has : files.hasEntry (base.join ⟨name⟩)) : files.isDirectory base := by
  obtain ⟨directory, _, placed, _⟩ := (FileSystem.hasEntry_joinName_iff ordinary).1 has
  obtain ⟨accepted, _, _, leads⟩ := (FileSystem.placedAt_joinName_iff ordinary).1 placed
  exact FileSystem.isDirectory_iff.2
    ⟨FileSystem.checkPath_base ordinary nonempty accepted, directory, leads⟩

theorem hasEntry_add (ordinary : OrdinaryName name) {directory : Location} {entry : Entry}
    (placed : files.PlacedAt (base.join ⟨name⟩) directory name)
    (vacant : files.entryAt? (name :: directory) = none) :
    (files.add directory name entry).hasEntry (base.join ⟨name⟩) :=
  (FileSystem.hasEntry_joinName_iff ordinary).2 ⟨directory, entry, placed.add vacant entry⟩

/-- A file that was made sure of is there, and its directory was there before. -/
theorem FileLeft.placed (ordinary : OrdinaryName name)
    (left : FileLeft (base.join ⟨name⟩) files true later) :
    later.hasEntry (base.join ⟨name⟩) ∧
      ∃ directory, files.PlacedAt (base.join ⟨name⟩) directory name := by
  unfold FileLeft at left
  split at left
  · next has =>
      rw [left.2]
      obtain ⟨directory, _, placed, _⟩ := (FileSystem.hasEntry_joinName_iff ordinary).1 has
      exact ⟨has, directory, placed⟩
  · next absent =>
      obtain ⟨directory, placed, vacant, rfl⟩ :=
        FileSystem.placedAt_of_touch ordinary (by simpa using absent) left
      exact ⟨hasEntry_add ordinary placed vacant, directory, placed⟩

/-- A link that was made sure of is there, or something is there in its place. Its directory was
there before. -/
theorem placed_of_ensure {link : Link} {change : LinkChange} (ordinary : OrdinaryName name)
    (destination : link.destination = base.join ⟨name⟩)
    (ensured : link.ensure files = .ok (change, later)) :
    later.hasEntry (base.join ⟨name⟩) ∧
      ∃ directory, files.PlacedAt (base.join ⟨name⟩) directory name := by
  rcases Link.ensure_eq_ok ensured with ⟨has, rfl⟩ | ⟨_, applied⟩
  · rw [destination] at has
    obtain ⟨directory, _, placed, _⟩ := (FileSystem.hasEntry_joinName_iff ordinary).1 has
    exact ⟨has, directory, placed⟩
  · obtain ⟨directory, last, entry, placed, vacant, rfl, _⟩ := Link.placedAt_of_apply applied
    rw [destination] at placed
    obtain ⟨_, rfl, _⟩ := (FileSystem.placedAt_joinName_iff ordinary).1 placed
    exact ⟨hasEntry_add ordinary placed vacant, directory, placed⟩

/-- The link to the shared home is made sure of only where the per-host home is a directory. -/
theorem exists_leadsInto_hostHome (proper : Proper context.layout) {after : World}
    (linked : ensureTopLink.execute context world = .ok () after) :
    ∃ location, world.files.LeadsInto context.layout.hostHome location := by
  obtain ⟨change, ensured⟩ := (ensureTopLink_leaves context world.files).of_ok linked
  obtain ⟨_, directory, placed⟩ :=
    placed_of_ensure ordinaryName_topLinkName proper.topLink ensured
  obtain ⟨_, _, _, leads⟩ :=
    (FileSystem.placedAt_joinName_iff ordinaryName_topLinkName).1 placed
  exact ⟨directory, leads⟩

/-- Anything may be created, but only the scripts may be written. -/
def scriptsAlone (context : Context) : Allowance where
  creates _ _ := True
  writes := (writeSet context []).writes

theorem step_permits (proper : Proper context.layout) (keeps : context.sync.executor.KeepsFiles)
    {task : Task} (member : task ∈ steps) (files : FileSystem) :
    task.Leaves context files fun _ later => (scriptsAlone context).Permits files later := by
  have wider {directives : List Directive} {later : FileSystem}
      (permits : (writeSet context directives).Permits files later) :
      (scriptsAlone context).Permits files later :=
    permits.mono (fun _ _ _ => trivial) fun _ writes => writes
  simp only [steps, List.mem_cons, List.not_mem_nil, or_false] at member
  rcases member with rfl | rfl | rfl | rfl | rfl | rfl | rfl | rfl
  · exact (ensureHomeTree_permits proper [] files).imp fun _ _ => wider
  · exact (ensureTopLink_permits proper [] files).imp fun _ _ => wider
  · exact (ensureSkeleton_permits proper [] files).imp fun _ _ => wider
  · exact (ensureTransferFile_permits proper [] files).imp fun _ _ => wider
  · exact (injectSkeletons_permits keeps [] files).imp fun _ _ => wider
  · exact (applyTransfers_permits keeps files).imp fun _ _ => wider
  · exact (ensureMarker_permits proper [] files).imp fun _ _ => wider
  · exact (writeScripts_permits proper [] files).imp fun _ _ => wider

/-- Some of the steps keep every entry, and write over nothing but scripts. -/
theorem executeAll_permits (proper : Proper context.layout)
    (keeps : context.sync.executor.KeepsFiles) {tasks : List Task}
    (known : ∀ task ∈ tasks, task ∈ steps)
    (executed : executeAll context tasks world = .ok () after) :
    (scriptsAlone context).Permits world.files after.files :=
  (executeAll_ends .refl .trans (fun task member files =>
    step_permits proper keeps (known task member) files) world).of_ok executed

theorem executeAll_grows (proper : Proper context.layout)
    (keeps : context.sync.executor.KeepsFiles) {tasks : List Task}
    (known : ∀ task ∈ tasks, task ∈ steps)
    (executed : executeAll context tasks world = .ok () after) :
    Grows world.files after.files :=
  (executeAll_permits proper keeps known executed).grows

/-- The skeleton is settled as soon as the transfer file, which lies beside it, is made sure of. -/
theorem settled_skeleton (proper : Proper context.layout) {middle made : FileSystem}
    (skeleton : TreeLeft context.layout.skeleton files true middle)
    (transferFile : FileLeft context.layout.transferFile middle true made)
    (grows : Grows middle later) :
    later.isDirectory context.layout.skeleton ∨
      later.ensureTree context.layout.skeleton = (later, .ok ()) := by
  by_cases now : later.isDirectory context.layout.skeleton
  · exact .inl now
  · right
    rw [proper.transferFile] at transferFile
    obtain ⟨_, directory, placed⟩ := transferFile.placed ordinaryName_transferFileName
    obtain ⟨_, _, _, outer⟩ :=
      (FileSystem.placedAt_joinName_iff ordinaryName_transferFileName).1 placed
    unfold TreeLeft at skeleton
    split at skeleton
    · next before =>
        rw [skeleton.2] at grows
        exact absurd (grows.isDirectory before) now
    · have done := skeleton.2.1 rfl
      rw [proper.skeleton] at done now ⊢
      exact FileSystem.ensureTree_again ordinaryName_skeletonName
        proper.bytes_configDirectory_ne_nil done outer grows now

/-- When all steps have succeeded, nothing is left to do for them. -/
theorem settled_of_executeAll (proper : Proper context.layout)
    (keeps : context.sync.executor.KeepsFiles)
    (executed : executeAll context steps world = .ok () after) : Settled context after.files := by
  have grows {tasks : List Task} {moment : World} (known : ∀ task ∈ tasks, task ∈ steps)
      (rest : executeAll context tasks moment = .ok () after) : Grows moment.files after.files :=
    executeAll_grows proper keeps known rest
  unfold steps at executed
  obtain ⟨withHome, _, executed⟩ := executeAll_cons_eq_ok executed
  obtain ⟨withLink, link, executed⟩ := executeAll_cons_eq_ok executed
  have growsLink := grows (by simp [steps]) executed
  obtain ⟨withSkeleton, skeleton, executed⟩ := executeAll_cons_eq_ok executed
  have growsSkeleton := grows (by simp [steps]) executed
  obtain ⟨withTransferFile, transferFile, executed⟩ := executeAll_cons_eq_ok executed
  have growsTransferFile := grows (by simp [steps]) executed
  obtain ⟨injected, _, executed⟩ := executeAll_cons_eq_ok executed
  obtain ⟨transferred, _, executed⟩ := executeAll_cons_eq_ok executed
  obtain ⟨marked, marker, executed⟩ := executeAll_cons_eq_ok executed
  have growsMarker := grows (by simp [steps]) executed
  obtain ⟨change, ensured⟩ := (ensureTopLink_leaves context withHome.files).of_ok link
  have skeletonLeft := (ensureSkeleton_leaves context withLink.files).of_ok skeleton
  have transferFileLeft := (ensureTransferFile_leaves context withSkeleton.files).of_ok transferFile
  have markerLeft := (ensureMarker_leaves context transferred.files).of_ok marker
  refine ⟨?_, settled_skeleton proper skeletonLeft transferFileLeft growsSkeleton, ?_, ?_⟩
  · rw [proper.topLink]
    exact growsLink.hasEntry (placed_of_ensure ordinaryName_topLinkName proper.topLink ensured).1
  · rw [proper.transferFile] at transferFileLeft ⊢
    exact growsTransferFile.hasEntry (transferFileLeft.placed ordinaryName_transferFileName).1
  · rw [proper.marker] at markerLeft ⊢
    exact growsMarker.hasEntry (markerLeft.placed ordinaryName_markerName).1

theorem Settled.isDirectory_hostHome (proper : Proper context.layout)
    (settled : Settled context files) : files.isDirectory context.layout.hostHome := by
  have has := settled.topLink
  rw [proper.topLink] at has
  exact isDirectory_of_hasEntry ordinaryName_topLinkName proper.bytes_hostHome_ne_nil has

end HostHome.Provision
