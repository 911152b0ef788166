import HostHome.Proofs.FileSystem.NewTrees
import HostHome.Proofs.Provision.Provisioning
import HostHome.Proofs.Provision.Settled

/-!
# Keeping out of the shared home

A run compares the two homes before it creates anything.  If the shared home is
there, the comparison holds for the whole run: what the run creates on the way to
the per-host home is new, and the shared home is not.  If it is not there, only the
paths are compared, and the directories that are created may let both lead to one
place.
-/

namespace HostHome.Provision

open HostHome.Config
open HostHome.FileSystem (Grows)

def HomesMeet (files : FileSystem) (layout : Layout) : Prop :=
  ∃ location permissions,
    files.find layout.hostHome = .ok (location, .directory permissions) ∧
      files.find layout.sharedHome = .ok (location, .directory permissions)

variable {context : Context} {layout : Layout} {files later : FileSystem} {world moment : World}

theorem homesMeet_iff :
    HomesMeet files layout ↔
      FileSystem.checkPath layout.hostHome = .ok () ∧
        FileSystem.checkPath layout.sharedHome = .ok () ∧
        ∃ location, files.LeadsInto layout.hostHome location ∧
          files.LeadsInto layout.sharedHome location := by
  constructor
  · rintro ⟨location, permissions, host, shared⟩
    have acceptedHost := (FileSystem.find_eq_ok_iff.1 host).1
    have acceptedShared := (FileSystem.find_eq_ok_iff.1 shared).1
    exact ⟨acceptedHost, acceptedShared, location,
      (FileSystem.leadsInto_iff_find acceptedHost).2 ⟨_, host, rfl⟩,
      (FileSystem.leadsInto_iff_find acceptedShared).2 ⟨_, shared, rfl⟩⟩
  · rintro ⟨acceptedHost, acceptedShared, location, host, shared⟩
    obtain ⟨entry, foundHost, isDirectory⟩ := (FileSystem.leadsInto_iff_find acceptedHost).1 host
    obtain ⟨other, foundShared, _⟩ := (FileSystem.leadsInto_iff_find acceptedShared).1 shared
    have present := (FileSystem.find_eq_ok_iff.1 foundHost).2.1
    cases present.symm.trans (FileSystem.find_eq_ok_iff.1 foundShared).2.1
    cases entry with
    | directory permissions => exact ⟨location, permissions, foundHost, foundShared⟩
    | symbolicLink | file => cases isDirectory

theorem HomesMeet.grows (meet : HomesMeet files layout) (grows : Grows files later) :
    HomesMeet later layout := by
  obtain ⟨acceptedHost, acceptedShared, location, host, shared⟩ := homesMeet_iff.1 meet
  exact homesMeet_iff.2
    ⟨acceptedHost, acceptedShared, location, grows.leadsInto host, grows.leadsInto shared⟩

theorem exists_leadsInto_sharedHome (proper : Proper layout) {location : Location}
    (host : files.LeadsInto layout.hostHome location) :
    ∃ shared, files.LeadsInto layout.sharedHome shared := by
  obtain ⟨name, ordinary, hostHome⟩ := proper.hostHome
  rw [hostHome] at host
  have outer := ordinaryName_perHostDirectoryName
  obtain ⟨_, between⟩ := host.above (Path.isAbsolute_joinName ordinary _).symm
    (Path.course_joinName ordinary _)
  exact between.above (Path.isAbsolute_joinName outer _).symm (Path.course_joinName outer _)

theorem HomesMeet.before (proper : Proper layout) (meet : HomesMeet later layout)
    (grows : Grows files later) {location : Location}
    (host : files.LeadsInto layout.hostHome location) : HomesMeet files layout := by
  obtain ⟨acceptedHost, acceptedShared, place, hostLater, sharedLater⟩ := homesMeet_iff.1 meet
  obtain ⟨other, shared⟩ := exists_leadsInto_sharedHome proper host
  obtain rfl := (grows.leadsInto host).unique hostLater
  obtain rfl := (grows.leadsInto shared).unique sharedLater
  exact homesMeet_iff.2 ⟨acceptedHost, acceptedShared, other, host, shared⟩

theorem HomesMeet.isPassThrough (meet : HomesMeet files layout) : isPassThrough files layout := by
  obtain ⟨location, permissions, host, shared⟩ := meet
  simp [Provision.isPassThrough, FileSystem.canonical, host, shared, bind, Except.bind, pure,
    Except.pure, Path.sameAs]

theorem known_of_ahead {done rest : List Task} {next : Task}
    (ahead : steps = ensureHomeTree :: done ++ next :: rest) : ∀ task ∈ done, task ∈ steps := by
  intro task member
  rw [ahead]
  simp [member]

/-- Whether the homes meet is decided when the per-host home has been made sure of. -/
theorem homesMeet_of_executeAll (proper : Proper context.layout)
    (keeps : context.sync.executor.KeepsFiles) {done rest : List Task} {next : Task}
    (ahead : steps = ensureHomeTree :: done ++ next :: rest)
    (executed : executeAll context done world = .ok () moment) :
    HomesMeet moment.files context.layout ↔ HomesMeet world.files context.layout := by
  have grows := executeAll_grows proper keeps (known_of_ahead ahead) executed
  constructor
  · intro meet
    cases done with
    | nil => cases executed; exact meet
    | cons task more =>
        obtain ⟨_, behind⟩ := List.cons.inj ahead
        obtain ⟨rfl, _⟩ := List.cons.inj behind
        obtain ⟨middle, linked, _⟩ := executeAll_cons_eq_ok executed
        obtain ⟨location, host⟩ := exists_leadsInto_hostHome proper linked
        exact meet.before proper grows host
  · exact fun meet => meet.grows grows

/-- The creation of the per-host home does not let the homes meet if the shared home is there. -/
theorem not_homesMeet_ensureTree (proper : Proper layout)
    (isDirectory : files.isDirectory layout.sharedHome)
    (apart : isPassThrough files layout = false) :
    ¬ HomesMeet (files.ensureTree layout.hostHome).1 layout := by
  intro meet
  obtain ⟨name, ordinary, hostHome⟩ := proper.hostHome
  have grows := (FileSystem.permits_ensureTree files proper.endsWithSlash_hostHome).grows
  obtain ⟨acceptedHost, _, location, host, shared⟩ := homesMeet_iff.1 meet
  obtain ⟨_, directory, before⟩ := FileSystem.isDirectory_iff.1 isDirectory
  obtain rfl := (grows.leadsInto before).unique shared
  have found : files.LeadsInto layout.hostHome directory ∨ files.entryAt? directory = none := by
    rw [hostHome] at acceptedHost host ⊢
    have made := FileSystem.lastTwoMade_ensureTree ordinaryName_perHostDirectoryName ordinary
      isDirectory
    exact made.leadsInto ordinaryName_perHostDirectoryName ordinary acceptedHost host
  rcases found with hostBefore | absent
  · have passes := (meet.before proper grows hostBefore).isPassThrough
    rw [apart] at passes
    cases passes
  · have there := before.isDirectoryAt
    simp [FileSystem.isDirectoryAt, absent] at there

/-- The homes are the same directory at some moment behind the first step if and only if the shared
home was not there at the start and the creation of the per-host home lets them meet. -/
theorem homesMeet_iff_of_reaches (prepared : context.Prepared)
    (keeps : context.sync.executor.KeepsFiles) {done : List Task} {next : Task}
    (begun : done ≠ []) (reaches : Reaches context world done next moment) :
    HomesMeet moment.files context.layout ↔
      ¬ world.files.isDirectory context.layout.sharedHome ∧
        HomesMeet (world.files.ensureTree context.layout.hostHome).1 context.layout := by
  have proper := prepared.proper
  have growsTree :=
    (FileSystem.permits_ensureTree world.files proper.endsWithSlash_hostHome).grows
  obtain ⟨rest, ahead⟩ := reaches.ahead
  have executed := reaches.executed
  obtain ⟨task, more, rfl⟩ := List.exists_cons_of_ne_nil begun
  obtain ⟨rfl, _⟩ := List.cons.inj ahead
  obtain ⟨withHome, made, executed⟩ := executeAll_cons_eq_ok executed
  have left := (ensureHomeTree_leaves context world.files).of_ok made
  have decided : HomesMeet withHome.files context.layout ↔
      HomesMeet (world.files.ensureTree context.layout.hostHome).1 context.layout := by
    unfold TreeLeft at left
    split at left
    · next isDirectory =>
        obtain ⟨_, location, host⟩ := FileSystem.isDirectory_iff.1 isDirectory
        rw [left.2]
        exact ⟨fun meet => meet.grows growsTree, fun meet => meet.before proper growsTree host⟩
    · rw [left.1]
  rw [homesMeet_of_executeAll proper keeps ahead executed, decided]
  constructor
  · intro meet
    exact ⟨fun isDirectory => not_homesMeet_ensureTree proper isDirectory reaches.apart meet, meet⟩
  · exact fun both => both.2

/-- A run that creates the tree of the per-host home comes to the next step. -/
theorem exists_reaches_ensureTopLink (single : isNested context world.files = false)
    (apart : isPassThrough world.files context.layout = false)
    (absent : world.files.isDirectory context.layout.hostHome = false)
    (made : (world.files.ensureTree context.layout.hostHome).2 = .ok ()) :
    ∃ moment, Reaches context world [ensureHomeTree] ensureTopLink moment ∧
      moment.files = (world.files.ensureTree context.layout.hostHome).1 := by
  obtain ⟨after, executed, left⟩ := ensureHomeTree_eq_ok absent (Prod.ext rfl made)
  exact ⟨after, ⟨single, apart, ⟨_, rfl⟩, executeAll_cons_of_ok executed⟩, left⟩

theorem homes_apart_in_empty_home :
    ∃ moment, Reaches homeContext { files := homeFiles } [ensureHomeTree] ensureTopLink moment ∧
      ¬ HomesMeet moment.files homeContext.layout := by
  have single : isNested homeContext homeFiles = false := by cbv
  have apart : isPassThrough homeFiles homeContext.layout = false := by cbv
  have absent : homeFiles.isDirectory homeContext.layout.hostHome = false := by cbv
  have made : (homeFiles.ensureTree homeContext.layout.hostHome).2 = .ok () := by cbv
  have isDirectory : homeFiles.isDirectory homeContext.layout.sharedHome := by cbv
  have reached : ∃ moment, Reaches homeContext { files := homeFiles } [ensureHomeTree]
      ensureTopLink moment ∧
        moment.files = (homeFiles.ensureTree homeContext.layout.hostHome).1 :=
    exists_reaches_ensureTopLink single apart absent made
  obtain ⟨moment, reaches, _⟩ := reached
  have decided := homesMeet_iff_of_reaches prepared_homeContext keepsFiles_homeContext
    (List.cons_ne_nil _ _) reaches
  exact ⟨moment, reaches, fun meet => (decided.1 meet).1 isDirectory⟩

/-- Files with a home in which the per-host home is a link back to that home. -/
def loopFiles : FileSystem :=
  let home : Location := [Text.encode "home"]
  let hosts := Text.encode perHostDirectoryName :: home
  (homeFiles.add home (Text.encode perHostDirectoryName) (.directory directoryPermissions)).add
    hosts (Text.encode "web01") (.symbolicLink 0 (.ofText "/home"))

/-- The context of a plain run with a home that is spelled by way of a directory that is not there
yet. -/
def detourContext : Context := plainContextAt (.ofText "/home/new/..")

/-- The homes may be the same directory when the link is made sure of. -/
theorem homes_meet_by_detour :
    detourContext.Prepared ∧ detourContext.sync.executor.KeepsFiles ∧
      ∃ moment, Reaches detourContext { files := loopFiles } [ensureHomeTree] ensureTopLink moment ∧
        HomesMeet moment.files detourContext.layout := by
  have noHostGroups :
      loopFiles.readFile (hostGroupFileOf (.ofText "/home/new/..")) = .error .absent := by cbv
  have single : isNested detourContext loopFiles = false := by cbv
  have apart : isPassThrough loopFiles detourContext.layout = false := by cbv
  have absent : loopFiles.isDirectory detourContext.layout.hostHome = false := by cbv
  have made : (loopFiles.ensureTree detourContext.layout.hostHome).2 = .ok () := by cbv
  have host : (loopFiles.ensureTree detourContext.layout.hostHome).1.find
      detourContext.layout.hostHome =
        .ok ([Text.encode "home"], .directory directoryPermissions) := by cbv
  have shared : (loopFiles.ensureTree detourContext.layout.hostHome).1.find
      detourContext.layout.sharedHome =
        .ok ([Text.encode "home"], .directory directoryPermissions) := by cbv
  have reached : ∃ moment, Reaches detourContext { files := loopFiles } [ensureHomeTree]
      ensureTopLink moment ∧
        moment.files = (loopFiles.ensureTree detourContext.layout.hostHome).1 :=
    exists_reaches_ensureTopLink single apart absent made
  obtain ⟨moment, reaches, left⟩ := reached
  have meet : HomesMeet moment.files detourContext.layout := by
    rw [left]
    exact ⟨_, _, host, shared⟩
  exact ⟨prepared_plainContextAt noHostGroups, Execution.Executor.answering_keepsFiles [],
    moment, reaches, meet⟩

end HostHome.Provision
