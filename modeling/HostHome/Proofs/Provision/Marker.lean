import HostHome.Proofs.FileSystem.NewTrees
import HostHome.Proofs.Provision.Provisioning
import HostHome.Proofs.Provision.Settled

/-!
# What does not mark a home

Where the shared home is a directory, the steps before the skeletons do not mark the
per-host home.  If they create its directory, nothing is in it.  What else they create
has other names than the marker.
-/

namespace HostHome.Provision

open HostHome.Config
open HostHome.FileSystem (Grows)
open HostHome.Text (Bytes)

variable {context : Context} {layout : Layout} {files middle later : FileSystem}
  {world begun : World} {path base : Path} {directory : Location}
  {name other outer last : Bytes} {done : Bool}

/-- The files have grown, and nothing new has the name. -/
structure Withholds (name : Bytes) (files later : FileSystem) : Prop where
  grows : Grows files later
  absent : ∀ {directory : Location}, files.entryAt? (name :: directory) = none →
    later.entryAt? (name :: directory) = none

theorem Withholds.refl (name : Bytes) (files : FileSystem) : Withholds name files files :=
  ⟨.refl files, fun absent => absent⟩

theorem Withholds.trans (first : Withholds name files middle)
    (second : Withholds name middle later) : Withholds name files later :=
  ⟨first.grows.trans second.grows, fun absent => second.absent (first.absent absent)⟩

theorem withholds_add {entry : Entry} (placed : files.PlacedAt path directory other)
    (vacant : files.entryAt? (other :: directory) = none) (different : name ≠ other) :
    Withholds name files (files.add directory other entry) := by
  refine ⟨FileSystem.grows_add files directory other entry, fun absent => ?_⟩
  rw [FileSystem.entryAt?_add placed.isDirectoryAt vacant, if_neg (by simp [different]), absent]

theorem TreeLeft.withholds (ordinaryOuter : OrdinaryName outer) (ordinaryLast : OrdinaryName last)
    (isDirectory : files.isDirectory base)
    (left : TreeLeft ((base.join ⟨outer⟩).join ⟨last⟩) files done later)
    (differentOuter : name ≠ outer) (differentLast : name ≠ last) :
    Withholds name files later := by
  unfold TreeLeft at left
  split at left
  · rw [left.2]
    exact .refl name files
  · obtain ⟨rfl, _⟩ := left
    have grows := (FileSystem.permits_ensureTree files
      (Path.endsWithSlash_joinName ordinaryLast (base.join ⟨outer⟩))).grows
    refine ⟨grows, fun {directory} absent => ?_⟩
    by_contra present
    obtain ⟨entry, found⟩ := Option.ne_none_iff_exists'.1 present
    have made := FileSystem.lastTwoMade_ensureTree ordinaryOuter ordinaryLast isDirectory
    rcases made.cases_of_new ordinaryOuter ordinaryLast found absent with
      ⟨_, same, _⟩ | ⟨_, same, _⟩
    · exact differentOuter (List.cons.inj same).1
    · exact differentLast (List.cons.inj same).1

theorem FileLeft.withholds (ordinary : OrdinaryName other)
    (left : FileLeft (base.join ⟨other⟩) files done later) (different : name ≠ other) :
    Withholds name files later := by
  unfold FileLeft at left
  split at left
  · rw [left.2]
    exact .refl name files
  · next absent =>
      split at left
      · obtain ⟨directory, placed, vacant, rfl⟩ :=
          FileSystem.placedAt_of_touch ordinary (by simpa using absent) left
        exact withholds_add placed vacant different
      · rw [left]
        exact .refl name files

theorem withholds_of_ensure {link : Link} {change : LinkChange} (ordinary : OrdinaryName other)
    (destination : link.destination = base.join ⟨other⟩)
    (ensured : link.ensure files = .ok (change, later)) (different : name ≠ other) :
    Withholds name files later := by
  rcases Link.ensure_eq_ok ensured with ⟨_, rfl⟩ | ⟨_, applied⟩
  · exact .refl name later
  · obtain ⟨directory, own, entry, placed, vacant, rfl, _⟩ := Link.placedAt_of_apply applied
    have spelled := placed
    rw [destination] at spelled
    obtain ⟨_, rfl, _⟩ := (FileSystem.placedAt_joinName_iff ordinary).1 spelled
    exact withholds_add placed vacant different

/-- Where the shared home is a directory, the steps between the per-host home and the skeletons
create no marker. -/
theorem withholds_of_mem (proper : Proper context.layout) {task : Task}
    (member : task ∈ [ensureTopLink, ensureSkeleton, ensureTransferFile]) (files : FileSystem) :
    task.Leaves context files fun _ later => files.isDirectory context.layout.sharedHome →
      Withholds (Text.encode markerName) files later := by
  simp only [List.mem_cons, List.not_mem_nil, or_false] at member
  rcases member with rfl | rfl | rfl
  · refine (ensureTopLink_leaves context files).imp ?_
    intro done later left _
    split at left
    · obtain ⟨change, ensured⟩ := left
      exact withholds_of_ensure ordinaryName_topLinkName proper.topLink ensured (by decide)
    · rw [left]
      exact .refl _ files
  · refine (ensureSkeleton_leaves context files).imp ?_
    intro done later left isDirectory
    rw [proper.skeleton, proper.configDirectory] at left
    exact left.withholds ordinaryName_configDirectoryName ordinaryName_skeletonName isDirectory
      (by decide) (by decide)
  · refine (ensureTransferFile_leaves context files).imp ?_
    intro done later left _
    rw [proper.transferFile] at left
    exact left.withholds ordinaryName_transferFileName (by decide)

theorem isMarked_iff (proper : Proper context.layout) :
    context.isMarked files ↔ FileSystem.checkPath context.layout.marker = .ok () ∧
      ∃ directory entry, files.LeadsInto context.layout.hostHome directory ∧
        files.entryAt? (Text.encode markerName :: directory) = some entry := by
  have short : (Text.encode markerName).length ≤ nameLimit := by decide
  unfold Context.isMarked
  rw [proper.marker, FileSystem.hasEntry_joinName_iff ordinaryName_markerName]
  simp only [FileSystem.placedAt_joinName_iff ordinaryName_markerName]
  constructor
  · rintro ⟨directory, entry, ⟨accepted, _, _, leads⟩, found⟩
    exact ⟨accepted, directory, entry, leads, found⟩
  · rintro ⟨accepted, directory, entry, leads, found⟩
    exact ⟨directory, entry, ⟨accepted, trivial, short, leads⟩, found⟩

theorem isMarked_of_grows (proper : Proper context.layout) (grows : Grows files later)
    (marked : context.isMarked files) : context.isMarked later := by
  unfold Context.isMarked at marked ⊢
  rw [proper.marker] at marked ⊢
  exact grows.hasEntry marked

/-- A per-host home that is there is not marked without a new marker. -/
theorem Withholds.isMarked (proper : Proper context.layout)
    (withholds : Withholds (Text.encode markerName) files later)
    (host : files.LeadsInto context.layout.hostHome directory)
    (marked : context.isMarked later) : context.isMarked files := by
  rw [isMarked_iff proper] at marked ⊢
  obtain ⟨accepted, place, entry, leads, found⟩ := marked
  obtain rfl := leads.unique (withholds.grows.leadsInto host)
  refine ⟨accepted, place, ?_⟩
  cases before : files.entryAt? (Text.encode markerName :: place) with
  | some old => exact ⟨old, host, rfl⟩
  | none =>
      rw [withholds.absent before] at found
      cases found

theorem TreeLeft.isMarked (proper : Proper context.layout)
    (isDirectory : files.isDirectory context.layout.sharedHome)
    (left : TreeLeft context.layout.hostHome files done later)
    (marked : context.isMarked later) : context.isMarked files := by
  obtain ⟨name, ordinary, hostHome⟩ := proper.hostHome
  have outer := ordinaryName_perHostDirectoryName
  unfold TreeLeft at left
  split at left
  · rwa [left.2] at marked
  · obtain ⟨rfl, _⟩ := left
    have made := FileSystem.lastTwoMade_ensureTree outer ordinary isDirectory
    rw [isMarked_iff proper] at marked ⊢
    obtain ⟨accepted, directory, entry, leads, found⟩ := marked
    have acceptedHost : FileSystem.checkPath context.layout.hostHome = .ok () := by
      rw [proper.marker] at accepted
      exact FileSystem.checkPath_base ordinaryName_markerName proper.bytes_hostHome_ne_nil accepted
    rw [hostHome] at leads found acceptedHost ⊢
    rcases made.leadsInto outer ordinary acceptedHost leads with host | new
    · refine ⟨accepted, directory, ?_⟩
      cases before : files.entryAt? (Text.encode markerName :: directory) with
      | some old => exact ⟨old, host, rfl⟩
      | none =>
          exfalso
          rcases made.cases_of_new outer ordinary found before with
            ⟨_, same, _⟩ | ⟨place, _, leadsMarker⟩
          · exact absurd (List.cons.inj same).1 (by decide)
          · exact FileSystem.ne_cons_self (leads.unique leadsMarker)
    · rw [made.entryAt?_within_eq_none outer ordinary leads new] at found
      cases found

/-- The link is made sure of where the per-host home is a directory, and elsewhere the run ends. -/
theorem ends_ensureTopLink (proper : Proper context.layout) (rest : List Task) :
    (executeAll context (ensureTopLink :: rest)).Ends world fun _ after =>
      after.files = world.files ∨
        ∃ directory, world.files.LeadsInto context.layout.hostHome directory := by
  have leaves := ensureTopLink_leaves context world.files world rfl
  simp only [executeAll, Run.ends_bind]
  refine (leaves.and (Run.ends_self _ world)).imp ?_
  rintro (stop | _) middle ⟨left, executed⟩
  · exact .inl (by simpa [Except.isOk, Except.toBool] using left)
  · exact Run.ends_of_forall fun _ _ => .inr (exists_leadsInto_hostHome proper executed)

/-- Where the shared home is a directory, the steps before the skeletons do not mark the per-host
home. -/
theorem ends_before_skeletons (proper : Proper context.layout) (world : World) :
    (executeAll context (steps.take 4)).Ends world fun _ after =>
      world.files.isDirectory context.layout.sharedHome →
        Grows world.files after.files ∧
          (context.isMarked after.files → context.isMarked world.files) := by
  have between (middle : World) :
      (executeAll context [ensureTopLink, ensureSkeleton, ensureTransferFile]).Ends middle
        fun _ after => middle.files.isDirectory context.layout.sharedHome →
          Withholds (Text.encode markerName) middle.files after.files := by
    refine executeAll_ends (fun files _ => .refl _ files) ?_
      (fun task member files => withholds_of_mem proper member files) middle
    intro files middle later first second isDirectory
    have withholds := first isDirectory
    exact withholds.trans (second (withholds.grows.isDirectory isDirectory))
  have parts : steps.take 4 =
      ensureHomeTree :: [ensureTopLink, ensureSkeleton, ensureTransferFile] := rfl
  rw [parts, executeAll_cons, Run.ends_bind]
  refine ((ensureHomeTree_leaves context world.files world rfl).and
    (ensureHomeTree_permits proper [] world.files world rfl)).imp ?_
  rintro result middle ⟨left, permits⟩
  have unmarked (isDirectory : world.files.isDirectory context.layout.sharedHome) :
      context.isMarked middle.files → context.isMarked world.files :=
    left.isMarked proper isDirectory
  cases result with
  | error stop => exact fun isDirectory => ⟨permits.grows, unmarked isDirectory⟩
  | ok _ =>
      refine ((between middle).and (ends_ensureTopLink proper _)).imp ?_
      rintro _ after ⟨withholds, unchanged⟩ isDirectory
      have withheld := withholds (permits.grows.isDirectory isDirectory)
      refine ⟨permits.grows.trans withheld.grows, fun marked => unmarked isDirectory ?_⟩
      rcases unchanged with same | ⟨_, host⟩
      · rwa [same] at marked
      · exact withheld.isMarked proper host marked

/-- Where the shared home is a directory, a home is marked when the run comes to the skeletons only
if it was marked at the start. -/
theorem Reaches.isMarked_eq (proper : Proper context.layout)
    (isDirectory : world.files.isDirectory context.layout.sharedHome)
    (reaches : Reaches context world (steps.take 4) injectSkeletons begun) :
    context.isMarked begun.files = context.isMarked world.files := by
  obtain ⟨grows, marked⟩ :=
    (ends_before_skeletons proper world).of_ok reaches.executed isDirectory
  exact Bool.eq_iff_iff.2 ⟨marked, isMarked_of_grows proper grows⟩

end HostHome.Provision
