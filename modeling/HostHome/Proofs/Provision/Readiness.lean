import HostHome.Proofs.Provision.Idempotence

/-!
# Homes that are ready

A run that executed all steps leaves a per-host home with the link, the transfer
file and the marker.  The link leads to the shared home as it is spelled, unless
something else has its place: what was there before the run, or a directory on the
way to the per-host home.  And the per-host home is a shared home for no run.
-/

namespace HostHome.Provision

open HostHome.Config
open HostHome.FileSystem (Allowance Grows)

/-- What a run makes of the place of the link, on the files from before it. -/
inductive TopLinkLeft (context : Context) (files later : FileSystem) (location : Location) :
    Entry → Prop
  /-- What was there is there, and only scripts were written over. -/
  | kept {old entry : Entry} (before : files.entryAt? location = some old)
      (becomes : (scriptsAlone context).Becomes later old entry) :
      TopLinkLeft context files later location entry
  /-- The link was created. -/
  | linked (before : files.entryAt? location = none) (inode : Nat) :
      TopLinkLeft context files later location (.symbolicLink inode context.layout.sharedHome)
  /-- The place was taken by a directory on the way to the per-host home. -/
  | passed (before : files.entryAt? location = none) {upper : Path} {permissions : Nat}
      (above : upper.components <+: context.layout.hostHome.components)
      (leads : later.findLink upper = .ok (location, .directory permissions)) :
      TopLinkLeft context files later location (.directory permissions)

structure Ready (context : Context) (files later : FileSystem) : Prop where
  hostHome : later.isDirectory context.layout.hostHome
  transferFile : later.hasEntry context.layout.transferFile
  marker : later.hasEntry context.layout.marker
  topLink : ∃ location entry, later.findLink context.layout.topLink = .ok (location, entry) ∧
    TopLinkLeft context files later location entry

variable {context : Context} {files middle later : FileSystem} {world after : World}
  {location : Location} {entry : Entry}

/-- What has the place of the link when the link has been made sure of. -/
theorem exists_of_ensure_topLink (proper : Proper context.layout) {change : LinkChange}
    (ensured : (topLink context.layout).ensure files = .ok (change, later)) :
    ∃ location entry, later.findLink context.layout.topLink = .ok (location, entry) ∧
      later.entryAt? location = some entry ∧
      (files.entryAt? location = some entry ∨
        files.entryAt? location = none ∧
          ∃ inode, entry = .symbolicLink inode context.layout.sharedHome) := by
  have open_ := proper.endsWithSlash_topLink
  rcases Link.ensure_eq_ok ensured with ⟨has, rfl⟩ | ⟨_, applied⟩
  · simp only [topLink, proper.topLink] at has
    obtain ⟨directory, entry, placed, present⟩ :=
      (FileSystem.hasEntry_joinName_iff ordinaryName_topLinkName).1 has
    rw [← proper.topLink] at placed
    exact ⟨_, entry, placed.findLink_eq_ok open_ present, present, .inl present⟩
  · obtain ⟨directory, name, entry, placed, vacant, rfl, symbolic, _⟩ :=
      Link.placedAt_of_apply applied
    obtain ⟨placedLater, present⟩ := placed.add vacant entry
    exact ⟨_, entry, placedLater.findLink_eq_ok open_ present, present,
      .inr ⟨vacant, _, symbolic rfl⟩⟩

/-- A directory that is new when the per-host home has been made sure of is on the way to it. -/
theorem exists_upper_of_new (proper : Proper context.layout)
    (left : TreeLeft context.layout.hostHome files true middle)
    (found : middle.entryAt? location = some entry) (new : files.entryAt? location = none) :
    ∃ upper, upper.components <+: context.layout.hostHome.components ∧
      entry = .directory directoryPermissions ∧ middle.findLink upper = .ok (location, entry) := by
  have permits := FileSystem.permits_ensureTree files proper.endsWithSlash_hostHome
  unfold TreeLeft at left
  split at left
  · rw [left.2, new] at found
    cases found
  · rw [left.1] at found ⊢
    rcases permits.made found new with
      ⟨upper, _, ⟨above, rfl⟩, leads, becomes⟩ | ⟨_, writes, _⟩
    · exact ⟨upper, above, Entry.eq_of_shape_of_isDirectory becomes.1 rfl, leads⟩
    · exact writes.elim

/-- The place of the link, after all steps have succeeded. -/
theorem topLinkLeft_of_executeAll (proper : Proper context.layout)
    (keeps : context.sync.executor.KeepsFiles)
    (executed : executeAll context steps world = .ok () after) :
    ∃ location entry, after.files.findLink context.layout.topLink = .ok (location, entry) ∧
      TopLinkLeft context world.files after.files location entry := by
  have permits := executeAll_permits proper keeps (fun _ member => member) executed
  unfold steps at executed
  obtain ⟨withHome, home, executed⟩ := executeAll_cons_eq_ok executed
  have growsHome := executeAll_grows proper keeps (by simp [steps]) executed
  obtain ⟨withLink, link, executed⟩ := executeAll_cons_eq_ok executed
  have grows := executeAll_grows proper keeps (by simp [steps]) executed
  have homeLeft := (ensureHomeTree_leaves context world.files).of_ok home
  obtain ⟨change, ensured⟩ := (ensureTopLink_leaves context withHome.files).of_ok link
  obtain ⟨location, entry, leads, present, origin⟩ := exists_of_ensure_topLink proper ensured
  obtain ⟨now, leadsNow, presentNow, same⟩ := grows.findLink leads
  refine ⟨location, now, leadsNow, ?_⟩
  cases before : world.files.entryAt? location with
  | some old =>
      obtain ⟨other, presentOther, becomes⟩ := permits.kept before
      cases presentNow.symm.trans presentOther
      exact .kept before becomes
  | none =>
      rcases origin with found | ⟨_, inode, rfl⟩
      · obtain ⟨upper, above, rfl, leadsUpper⟩ := exists_upper_of_new proper homeLeft found before
        obtain ⟨other, leadsOther, presentOther, _⟩ := growsHome.findLink leadsUpper
        obtain rfl := Entry.eq_of_shape_of_isDirectory same rfl
        cases presentNow.symm.trans presentOther
        exact .passed before above leadsOther
      · have symbolic := Entry.shape_eq_symbolicLink_iff.1 same
        rw [symbolic]
        exact .linked before inode

/-- A run that comes to an end and does not pass through leaves a per-host home that is ready. -/
theorem ready_of_executeAll (proper : Proper context.layout)
    (keeps : context.sync.executor.KeepsFiles)
    (executed : executeAll context steps world = .ok () after) :
    Ready context world.files after.files := by
  have settled := settled_of_executeAll proper keeps executed
  exact ⟨settled.isDirectory_hostHome proper, settled.transferFile, settled.marker,
    topLinkLeft_of_executeAll proper keeps executed⟩

/-- A successful run that does not pass through produces a per-host home: it is ready, and it is
refused as a shared home. -/
theorem provision_produces_home (prepared : context.Prepared)
    (keeps : context.sync.executor.KeepsFiles) {outcome : Outcome}
    (provisioned : provision context world = .ok outcome after)
    (apart : isPassThrough world.files context.layout = false) :
    Ready context world.files after.files ∧
      ∀ (other : Context) (again : World), other.Prepared → other.update = false →
        other.layout.sharedHome = context.layout.hostHome → again.files = after.files →
          provision other again = .error (.failure ⟨.nested context.layout.marker, []⟩) again := by
  have proper := prepared.proper
  obtain ⟨_, ⟨passes, _⟩ | ⟨_, _, executed⟩⟩ := provision_eq_ok provisioned
  · rw [apart] at passes
    cases passes
  · have ready := ready_of_executeAll proper keeps executed
    refine ⟨ready, ?_⟩
    intro other again otherPrepared noUpdate shared same
    have marker : other.layout.nestedMarker = context.layout.marker := by
      rw [otherPrepared.proper.nestedMarker, shared, proper.marker]
    have nested : isNested other again.files := by
      simp [isNested, noUpdate, marker, same, ready.marker]
    rw [provision_of_isNested nested, marker]

theorem provision_produces_home_in_empty_home :
    ∃ outcome after, provision homeContext { files := homeFiles } = .ok outcome after ∧
      isPassThrough homeFiles homeContext.layout = false ∧
      Ready homeContext homeFiles after.files ∧
      provision (plainContextAt homeContext.layout.hostHome) after =
        .error (.failure ⟨.nested homeContext.layout.marker, []⟩) after := by
  obtain ⟨outcome, after, provisioned, _⟩ := exists_provision_homeContext
  have apart : isPassThrough homeFiles homeContext.layout = false := by cbv
  have noHostGroups :
      homeFiles.readFile (hostGroupFileOf homeContext.layout.hostHome) = .error .absent := by cbv
  obtain ⟨ready, refused⟩ := provision_produces_home prepared_homeContext keepsFiles_homeContext
    provisioned apart
  exact ⟨outcome, after, provisioned, apart, ready,
    refused _ after (prepared_plainContextAt noHostGroups) rfl rfl rfl⟩

/-- Files with a per-host home that is marked, but has no link to the shared home. -/
def markedFiles : FileSystem :=
  homeFiles
    |>.add hostLocation.tail.tail (Text.encode perHostDirectoryName)
      (.directory directoryPermissions)
    |>.add hostLocation.tail (Text.encode "web01") (.directory directoryPermissions)
    |>.add hostLocation (Text.encode markerName) (.file 0 filePermissions [])
    |>.add configLocation.tail (Text.encode configDirectoryName)
      (.directory directoryPermissions)
    |>.add configLocation (Text.encode skeletonName) (.directory directoryPermissions)
    |>.add configLocation (Text.encode transferFileName) (.file 1 filePermissions [])

/-- The context of a plain run with a home that is spelled by way of the place of the link. -/
def windingContext : Context := plainContextAt (.ofText "/home/home_local/web01/topdir/../../..")

def windingFiles : FileSystem := (markedFiles.ensureTree windingContext.layout.hostHome).1

theorem settled_windingFiles : Settled windingContext windingFiles where
  topLink := by cbv
  skeleton := .inl (by cbv)
  transferFile := by cbv
  marker := by cbv

/-- A run may make a directory in the place of the link. -/
theorem exists_directory_at_topLink :
    windingContext.Prepared ∧ windingContext.sync.executor.KeepsFiles ∧
      isPassThrough markedFiles windingContext.layout = false ∧
      markedFiles.hasEntry windingContext.layout.topLink = false ∧
      ∃ outcome after, provision windingContext { files := markedFiles } = .ok outcome after ∧
        ∃ location permissions, after.files.findLink windingContext.layout.topLink =
          .ok (location, .directory permissions) := by
  have noHostGroups : markedFiles.readFile
      (hostGroupFileOf (.ofText "/home/home_local/web01/topdir/../../..")) =
        .error .absent := by cbv
  have prepared : windingContext.Prepared := prepared_plainContextAt noHostGroups
  have single : isNested windingContext markedFiles = false := by cbv
  have apart : isPassThrough markedFiles windingContext.layout = false := by cbv
  have vacant : markedFiles.hasEntry windingContext.layout.topLink = false := by cbv
  have absent : markedFiles.isDirectory windingContext.layout.hostHome = false := by cbv
  have creates : (markedFiles.ensureTree windingContext.layout.hostHome).2 = .ok () := by cbv
  have made : markedFiles.ensureTree windingContext.layout.hostHome = (windingFiles, .ok ()) :=
    Prod.ext rfl creates
  have completes : ∃ after, executeAll windingContext steps { files := markedFiles } =
      .ok () after ∧ after.files = windingFiles :=
    executeAll_of_settled prepared.proper rfl rfl absent made settled_windingFiles
  obtain ⟨after, executed, left⟩ := completes
  have directory : after.files.findLink windingContext.layout.topLink =
      .ok (Text.encode topLinkName :: hostLocation, .directory directoryPermissions) := by
    rw [left]
    cbv
  exact ⟨prepared, Execution.Executor.answering_keepsFiles [], apart, vacant, _, after,
    provision_of_ok single apart executed, _, _, directory⟩

/-- The same files with a program, and with one file that is both in the place of the link and a
script. -/
def scriptedFiles : FileSystem :=
  markedFiles
    |>.add [] (Text.encode "multihome") (.file 2 directoryPermissions [])
    |>.add hostLocation (Text.encode topLinkName) (.file 3 filePermissions [])
    |>.add configLocation (Text.encode shellScriptName) (.file 3 filePermissions [])
    |>.add configLocation (Text.encode cShellScriptName) (.file 4 filePermissions [])

def scriptContext : Context := plainContext {
  home := .ofText "/home"
  hostName := "web01"
  script := true
  entryPoint := .ofText "/multihome"
  sync := ⟨.ofText syncProgramName, .answering []⟩ }

theorem settled_scriptedFiles : Settled scriptContext scriptedFiles where
  topLink := by cbv
  skeleton := .inl (by cbv)
  transferFile := by cbv
  marker := by cbv

theorem encode_forShell_ne_nil (program : Path) (stamp : String) :
    Text.encode (InitScript.forShell program stamp) ≠ [] := by
  intro none
  have member : '#' ∈ (InitScript.forShell program stamp).toList := by
    simp only [InitScript.forShell, InitScript.unlines, InitScript.headerLines,
      List.cons_append, List.map_cons, String.join_cons, String.toList_append, List.mem_append]
    exact .inl (.inl (by decide))
  have empty : String.utf8EncodeChar '#' = [] := List.flatMap_eq_nil_iff.1 none '#' member
  cases empty

theorem ends_writeScripts (same : world.files = scriptedFiles) :
    (executeAll scriptContext [writeScripts]).Ends world fun result after =>
      result = .ok () ∧ ∃ location text, text ≠ [] ∧
        after.files.findLink scriptContext.layout.topLink =
          .ok (location, .file 3 filePermissions text) := by
  have scripts : scriptContext.script = true := rfl
  have found : world.environment.findProgram? world.files scriptContext.entryPoint =
      some (.ofText "/multihome") := by
    rw [same]
    cbv
  have shell (text : Text.Bytes) : world.files.writeFile scriptContext.layout.shellScript text =
      .ok (scriptedFiles.setContent 3 text) := by
    rw [same]
    cbv
  have cShell (text other : Text.Bytes) :
      (scriptedFiles.setContent 3 text).writeFile scriptContext.layout.cShellScript other =
        .ok ((scriptedFiles.setContent 3 text).setContent 4 other) := by cbv
  have taken (text other : Text.Bytes) :
      ((scriptedFiles.setContent 3 text).setContent 4 other).findLink
        scriptContext.layout.topLink =
          .ok (Text.encode topLinkName :: hostLocation, .file 3 filePermissions text) := by cbv
  simp only [executeAll, Task.execute, writeScripts, writeScript, Run.findProgram?, Run.debug,
    Run.info, Run.ends_bind, Run.ends_get, Run.ends_files, Run.ends_report, Run.ends_pure,
    Run.ends_tryCatch, Run.ends_change, Run.ends_record, found, shell, cShell, scripts, if_true]
  exact ⟨trivial, _, _, encode_forShell_ne_nil _ _, taken _ _⟩

/-- A run may write a script over the file in the place of the link. -/
theorem exists_script_at_topLink :
    scriptContext.Prepared ∧ scriptContext.sync.executor.KeepsFiles ∧
      isPassThrough scriptedFiles scriptContext.layout = false ∧
      ∃ location, scriptedFiles.findLink scriptContext.layout.topLink =
          .ok (location, .file 3 filePermissions []) ∧
        ∃ outcome after, provision scriptContext { files := scriptedFiles } = .ok outcome after ∧
          ∃ location text, text ≠ [] ∧ after.files.findLink scriptContext.layout.topLink =
            .ok (location, .file 3 filePermissions text) := by
  have noHostGroups :
      scriptedFiles.readFile (hostGroupFileOf (.ofText "/home")) = .error .absent := by cbv
  have prepared : scriptContext.Prepared := prepared_plainContext noHostGroups (by decide)
  have single : isNested scriptContext scriptedFiles = false := by cbv
  have apart : isPassThrough scriptedFiles scriptContext.layout = false := by cbv
  have before : scriptedFiles.findLink scriptContext.layout.topLink =
      .ok (Text.encode topLinkName :: hostLocation, .file 3 filePermissions []) := by cbv
  have idle := executeAll_idle { files := scriptedFiles }
    (settled_scriptedFiles.idle prepared.proper rfl)
  obtain ⟨ready, reached, quiet⟩ := idle.exists_ok
  obtain ⟨after, written, _, text, nonempty, taken⟩ := (ends_writeScripts quiet.files).exists_ok
  have executed : executeAll scriptContext steps { files := scriptedFiles } = .ok () after :=
    (executeAll_append_of_ok reached).trans written
  exact ⟨prepared, Execution.Executor.answering_keepsFiles [], apart, _, before, _, after,
    provision_of_ok single apart executed, _, text, nonempty, taken⟩

/-- What a successful run leaves in the place of the link is not always the link where nothing was
before, and not always what was there before. -/
theorem not_linked_or_untouched :
    (¬ ∀ (context : Context) (world after : World) (outcome : Outcome), context.Prepared →
      context.sync.executor.KeepsFiles → provision context world = .ok outcome after →
      isPassThrough world.files context.layout = false →
      world.files.hasEntry context.layout.topLink = false →
      ∃ location inode, after.files.findLink context.layout.topLink =
        .ok (location, .symbolicLink inode context.layout.sharedHome)) ∧
    ¬ ∀ (context : Context) (world after : World) (outcome : Outcome), context.Prepared →
      context.sync.executor.KeepsFiles → provision context world = .ok outcome after →
      isPassThrough world.files context.layout = false →
      ∀ location entry, world.files.findLink context.layout.topLink = .ok (location, entry) →
        after.files.findLink context.layout.topLink = .ok (location, entry) := by
  constructor
  · intro linked
    obtain ⟨prepared, keeps, apart, vacant, outcome, after, provisioned, _, _, directory⟩ :=
      exists_directory_at_topLink
    obtain ⟨_, _, link⟩ := linked _ _ _ _ prepared keeps provisioned apart vacant
    rw [directory] at link
    cases link
  · intro untouched
    obtain ⟨prepared, keeps, apart, _, before, outcome, after, provisioned, _, text, nonempty,
      taken⟩ := exists_script_at_topLink
    have kept := untouched _ _ _ _ prepared keeps provisioned apart _ _ before
    rw [taken] at kept
    cases kept
    exact nonempty rfl

end HostHome.Provision
