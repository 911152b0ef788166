import HostHome.Program
import HostHome.Proofs.Failure.Status
import HostHome.Proofs.InitScript
import HostHome.Proofs.Provision.Provisioning
import HostHome.Proofs.Provision.Setup

/-!
# Paths that leave the program

The program tells the path of the per-host home on its standard output, and its own
path in the scripts for login shells.  Paths are bytes, but what it tells is text: the
bytes arrive as they are if they are the encoding of a text, and never otherwise.
-/

namespace HostHome

open HostHome.Config
open HostHome.Text (Bytes)

variable {language : PatternLanguage} {machine : Machine} {options : CommandLine.Options}
  {program : Bytes} {text : String} {world after : World}

theorem Path.encode_display_iff (path : Path) :
    Text.encode path.display = path.bytes ↔ Text.decode? path.bytes ≠ none :=
  Text.encode_decodeLossy_iff path.bytes

theorem Path.encode_display_lineFeed_iff (path : Path) :
    Text.encode (path.display ++ "\n") = path.bytes ++ [lineFeed] ↔
      Text.decode? path.bytes ≠ none := by
  have lineEnd : Text.encode "\n" = [lineFeed] := by decide
  rw [Text.encode_append, lineEnd, List.append_left_inj, Path.encode_display_iff]

/-- Of two paths that are texts, different ones are read as different texts. -/
theorem Path.display_injective {path other : Path} (decoded : Text.decode? path.bytes ≠ none)
    (decodedOther : Text.decode? other.bytes ≠ none) (same : path.display = other.display) :
    path = other := by
  have bytes : path.bytes = other.bytes := by
    calc path.bytes = Text.encode path.display := (path.encode_display_iff.2 decoded).symm
      _ = Text.encode other.display := by rw [same]
      _ = other.bytes := other.encode_display_iff.2 decodedOther
  cases path
  cases other
  exact congrArg Path.mk bytes

theorem Failure.exitCode_ne_zero (failure : Failure) : failure.exitCode ≠ 0 :=
  statusOf_ne_zero failure.cause.source?

/-- The world in which a run begins: the log file is open if it can be. -/
def Machine.worldAtStart (machine : Machine) (options : CommandLine.Options) : World :=
  let (files, logFile) := Log.prepareLogFile machine.files machine.environment
    (Machine.logName options (machine.hostNameFor options))
  let opened := logFile.bind (Log.openLogFile files machine.now)
  { files := (opened.map Prod.fst).getD files
    environment := machine.environment
    now := machine.now
    processId := machine.processId
    logFile }

/-- The exit status and the standard output follow from how the run ends. -/
theorem runOptions_code_stdout (language : PatternLanguage) (machine : Machine) (program : Bytes)
    (options : CommandLine.Options) :
    let result := machine.runOptions language program options
    match Provision.runOptions language machine options (machine.hostNameFor options) ⟨program⟩
      (machine.worldAtStart options) with
    | .ok text _ => result.code = 0 ∧ result.stdout = text
    | .error stop _ => result.code = (Machine.reportStop stop).1 := by
  intro result
  unfold result Machine.runOptions Machine.worldAtStart
  dsimp only
  generalize Provision.runOptions language machine options (machine.hostNameFor options)
    ⟨program⟩ _ = ended
  cases ended with
  | ok text after => exact ⟨rfl, rfl⟩
  | error stop after => rfl

theorem runOptions_of_success
    (success : (machine.runOptions language program options).code = 0) :
    ∃ after, Provision.runOptions language machine options (machine.hostNameFor options) ⟨program⟩
      (machine.worldAtStart options) =
        .ok (machine.runOptions language program options).stdout after := by
  have ends := runOptions_code_stdout language machine program options
  cases ended : Provision.runOptions language machine options (machine.hostNameFor options)
      ⟨program⟩ (machine.worldAtStart options) with
  | ok text after =>
      simp only [ended] at ends
      exact ⟨after, by rw [ends.2]⟩
  | error stop after =>
      simp only [ended] at ends
      rw [success] at ends
      cases stop with
      | failure failure => exact absurd ends.symm failure.exitCode_ne_zero
      | violation violation => cases ends

theorem locateSyncTool_eq_ok {executor : Execution.Executor} {sync : SyncTool}
    (located : Provision.locateSyncTool executor world = .ok sync after) : after = world := by
  unfold Provision.locateSyncTool at located
  obtain ⟨found, middle, searched, chosen⟩ := Provision.bind_eq_ok located
  have same : world = middle := (EStateM.Result.ok.inj searched).2
  cases found with
  | none => cases chosen
  | some program => exact (EStateM.Result.ok.inj chosen).2.symm.trans same.symm

theorem detect_eq_ok {update script : Bool} {name : String} {account : Option Path}
    {entryPoint : Path} {sync : SyncTool} {invocation : Provision.Invocation}
    (detected : Provision.detect update script (.ok name) account entryPoint sync world =
      .ok invocation after) :
    after = world ∧ ∃ home source,
      Execution.homeDirectory update world.environment account = .ok (home, source) ∧
      invocation =
        { home, homeSource := source, hostName := name, update, script, entryPoint, sync } := by
  unfold Provision.detect at detected
  obtain ⟨seen, begun, got, detected⟩ := Provision.bind_eq_ok detected
  obtain ⟨rfl, rfl⟩ := EStateM.Result.ok.inj got
  obtain ⟨⟨home, source⟩, middle, found, gathered⟩ := Provision.bind_eq_ok detected
  obtain ⟨found, rfl⟩ := Provision.ofExcept_eq_ok found
  obtain ⟨rfl, rfl⟩ := EStateM.Result.ok.inj gathered
  exact ⟨rfl, home, source, found, rfl⟩

/-- A run that is to provision a home returns the text of its path. -/
theorem stdout_of_provisionRun {hostName : Except String String} {entryPoint : Path}
    (ended : Provision.runOptions language machine options hostName entryPoint world =
      .ok text after)
    (untested : options.tests = false) (unscripted : options.script = false) :
    ∃ name home source resolution, hostName = .ok name ∧
      Execution.homeDirectory options.update world.environment machine.account =
        .ok (home, source) ∧
      world.files.resolveIdentity language (shortHostName name) (hostGroupFileOf home) =
        .ok resolution ∧
      text = (hostHomeOf home resolution.identity.homeName).display ++ "\n" := by
  unfold Provision.runOptions at ended
  obtain ⟨sync, middle, located, named⟩ := Provision.bind_eq_ok ended
  obtain rfl := locateSyncTool_eq_ok (Provision.within_eq_ok located)
  obtain ⟨_, begun, told, gathered⟩ := Provision.bind_eq_ok named
  obtain ⟨_, rfl⟩ := EStateM.Result.ok.inj told
  cases hostName with
  | error reason => cases gathered
  | ok name =>
      obtain ⟨invocation, _, detected, prepared⟩ := Provision.bind_eq_ok gathered
      obtain ⟨rfl, home, source, found, rfl⟩ := detect_eq_ok detected
      obtain ⟨context, ready, given, performed⟩ := Provision.bind_eq_ok prepared
      obtain ⟨resolution, resolved, _, rfl, reported⟩ := Provision.setup_eq_ok given
      refine ⟨name, home, source, resolution, rfl, found, resolved, ?_⟩
      rw [if_neg (by simp [untested])] at performed
      obtain ⟨outcome, last, provisioned, returned⟩ := Provision.bind_eq_ok performed
      have led : outcome = ⟨hostHomeOf home resolution.identity.homeName, false⟩ := by
        obtain ⟨_, ⟨_, rfl, _⟩ | ⟨_, rfl, _⟩⟩ := Provision.provision_eq_ok provisioned
        · rfl
        · simp [Provision.contextOf, unscripted, Layout.of]
      subst led
      exact (EStateM.Result.ok.inj returned).1.symm

theorem run_of_options {arguments : List Bytes}
    (read : CommandLine.Options.ofArguments arguments = .ok options) (language : PatternLanguage)
    (machine : Machine) (program : Bytes) :
    machine.run language program arguments = machine.runOptions language program options := by
  unfold Machine.run
  rw [read]

/-- Of a path, the bytes arrive exactly if they are a text.  A run that succeeds, and neither tests
nor writes scripts, prints the path of the per-host home, with replacements for what is no text.
In a script, a shell reads the value of the assignment as the path of the program, with the same
replacements, and nothing else depends on this path.  So programs whose paths are texts have
different scripts, but others may not. -/
theorem paths_arrive_iff_texts (language : PatternLanguage) (machine : Machine) (program : Bytes)
    {arguments : List Bytes} {options : CommandLine.Options}
    (read : CommandLine.Options.ofArguments arguments = .ok options)
    (untested : options.tests = false) (unscripted : options.script = false)
    (success : (machine.run language program arguments).code = 0) :
    (∃ hostName home source resolution,
      machine.hostNameFor options = .ok hostName ∧
      Execution.homeDirectory options.update machine.environment machine.account =
        .ok (home, source) ∧
      (machine.worldAtStart options).files.resolveIdentity language (shortHostName hostName)
        (hostGroupFileOf home) = .ok resolution ∧
      let hostHome := hostHomeOf home resolution.identity.homeName
      let stdout := (machine.run language program arguments).stdout
      stdout = hostHome.display ++ "\n" ∧
        (Text.encode stdout = hostHome.bytes ++ [lineFeed] ↔
          Text.decode? hostHome.bytes ≠ none)) ∧
    (∀ stamp, ∃ before behind, ∀ entry, ∃ word value,
      (InitScript.forShell entry stamp).toList =
        before ++ (InitScript.assignmentOf entry ++ '\n' :: behind) ∧
      Shell.readWord (InitScript.assignmentOf entry ++ '\n' :: behind) =
        some (word, '\n' :: behind) ∧
      Shell.assignment? word = some ("MULTIHOME".toList, value) ∧
      ∀ session : Shell.Session, session.expandOne value = Text.encode entry.display ∧
        (session.expandOne value = entry.bytes ↔ Text.decode? entry.bytes ≠ none)) ∧
    (∀ stamp entry other,
      (InitScript.forShell entry stamp = InitScript.forShell other stamp ↔
        entry.display = other.display) ∧
      (InitScript.forCShell entry stamp = InitScript.forCShell other stamp ↔
        entry.display = other.display) ∧
      (Text.decode? entry.bytes ≠ none → Text.decode? other.bytes ≠ none →
        (entry.display = other.display ↔ entry = other))) := by
  refine ⟨?_, ?_, ?_⟩
  · rw [run_of_options read] at success ⊢
    obtain ⟨after, ended⟩ := runOptions_of_success success
    obtain ⟨hostName, home, source, resolution, named, found, resolved, printed⟩ :=
      stdout_of_provisionRun ended untested unscripted
    refine ⟨hostName, home, source, resolution, named, found, resolved, printed, ?_⟩
    rw [printed]
    exact Path.encode_display_lineFeed_iff _
  · intro stamp
    obtain ⟨before, behind, spelled⟩ := InitScript.exists_toList_forShell stamp
    refine ⟨before, behind, ?_⟩
    intro entry
    refine ⟨_, _, spelled entry, InitScript.readWord_assignmentOf entry behind,
      InitScript.assignment?_assignedWord entry, ?_⟩
    intro session
    have value := InitScript.expandOne_assignedWord session entry
    exact ⟨value, by rw [value, Path.encode_display_iff]⟩
  · intro stamp entry other
    refine ⟨InitScript.forShell_eq_iff, InitScript.forCShell_eq_iff, ?_⟩
    intro decoded decodedOther
    constructor
    · exact Path.display_injective decoded decodedOther
    · intro same
      rw [same]

/-- A machine with nothing but a sync tool, whose user has the given home. -/
def plainMachine (home : Bytes) : Machine where
  files := (FileSystem.empty.add [] (Text.encode "bin") (.directory 0o755)).add [Text.encode "bin"]
    (Text.encode syncProgramName) (.file 1 0o755 [])
  environment := ⟨[(Execution.searchVariable, Text.encode "/bin"), (Execution.homeVariable, home)]⟩
  hostName := .ok "web01"
  executor := .answering []

theorem code_plainMachine (home : Bytes)
    (succeeded : (match Provision.runOptions regularExpressions (plainMachine home) {}
        (.ok "web01") (.ofText "multihome") ((plainMachine home).worldAtStart {}) with
      | .ok _ _ => true
      | .error _ _ => false) = true) :
    ((plainMachine home).run regularExpressions (Text.encode "multihome") []).code = 0 := by
  have read : CommandLine.Options.ofArguments [] = .ok {} := rfl
  have ends := runOptions_code_stdout regularExpressions (plainMachine home)
    (Text.encode "multihome") {}
  have named : (plainMachine home).hostNameFor {} = .ok "web01" := rfl
  rw [run_of_options read]
  rw [named] at ends
  split at succeeded
  · next ended =>
      simp only [Path.ofText] at ended
      simp only [ended] at ends
      exact ends.1
  · cases succeeded

theorem homeDirectory_plainMachine {home : Bytes} (spelled : home ≠ []) :
    Execution.homeDirectory false (plainMachine home).environment (plainMachine home).account =
      .ok (⟨home⟩, .homeVariable) := by
  have own : (plainMachine home).environment.getNonempty? Execution.homeVariable = some home := by
    have listed : (plainMachine home).environment.get? Execution.homeVariable = some home := rfl
    rw [Execution.Environment.getNonempty?, listed]
    simp [spelled]
  simp [Execution.homeDirectory, Execution.homeIn?, own]

theorem resolution_plainMachine {home : Bytes} {hostName : String} {shared : Path}
    {source : Execution.HomeSource} {resolution : Resolution} (spelled : home ≠ [])
    (absent : ((plainMachine home).worldAtStart {}).files.readFile (hostGroupFileOf ⟨home⟩) =
      .error .absent)
    (named : (plainMachine home).hostNameFor {} = .ok hostName)
    (found : Execution.homeDirectory false (plainMachine home).environment
      (plainMachine home).account = .ok (shared, source))
    (resolved : ((plainMachine home).worldAtStart {}).files.resolveIdentity regularExpressions
      (shortHostName hostName) (hostGroupFileOf shared) = .ok resolution) :
    hostHomeOf shared resolution.identity.homeName = hostHomeOf ⟨home⟩ "web01" := by
  rw [homeDirectory_plainMachine spelled] at found
  obtain ⟨rfl, rfl⟩ := Prod.mk.inj (Except.ok.inj found)
  obtain rfl : "web01" = hostName := Except.ok.inj named
  rw [Provision.resolveIdentity_of_absent absent] at resolved
  obtain rfl := Except.ok.inj resolved
  have short : shortHostName "web01" = "web01" := by decide
  rw [HostIdentity.unmatched, short]

theorem readFile_plainMachine_home :
    ((plainMachine (Text.encode "/home")).worldAtStart {}).files.readFile
      (hostGroupFileOf ⟨Text.encode "/home"⟩) = .error .absent := by
  cbv

theorem readFile_plainMachine_noText :
    ((plainMachine [slash, 0xFF]).worldAtStart {}).files.readFile
      (hostGroupFileOf ⟨[slash, 0xFF]⟩) = .error .absent := by
  cbv

theorem path_arrives_from_plainMachine :
    let result := (plainMachine (Text.encode "/home")).run regularExpressions
      (Text.encode "multihome") []
    result.code = 0 ∧
      Text.encode result.stdout =
        (hostHomeOf ⟨Text.encode "/home"⟩ "web01").bytes ++ [lineFeed] := by
  have success := code_plainMachine (Text.encode "/home") (by cbv)
  have absent := readFile_plainMachine_home
  obtain ⟨⟨hostName, home, source, resolution, named, found, resolved, _, arrives⟩, _⟩ :=
    paths_arrive_iff_texts regularExpressions (plainMachine (Text.encode "/home"))
      (Text.encode "multihome") rfl rfl rfl success
  rw [resolution_plainMachine (by decide) absent named found resolved] at arrives
  exact ⟨success, arrives.2 (by decide +kernel)⟩

/-- A home whose path is no text is printed as another path, and two programs whose paths are no
texts have the same script. -/
theorem not_paths_arrive :
    let result := (plainMachine [slash, 0xFF]).run regularExpressions (Text.encode "multihome") []
    result.code = 0 ∧
      Text.encode result.stdout ≠ (hostHomeOf ⟨[slash, 0xFF]⟩ "web01").bytes ++ [lineFeed] ∧
      ∀ stamp, InitScript.forShell ⟨[slash, 0xFF]⟩ stamp =
        InitScript.forShell ⟨[slash, 0xFE]⟩ stamp := by
  have success := code_plainMachine [slash, 0xFF] (by cbv)
  have absent := readFile_plainMachine_noText
  have read : CommandLine.Options.ofArguments [] = .ok {} := rfl
  refine ⟨success, ?_, ?_⟩
  · rw [run_of_options read] at success ⊢
    obtain ⟨after, ended⟩ := runOptions_of_success success
    obtain ⟨hostName, home, source, resolution, named, found, resolved, printed⟩ :=
      stdout_of_provisionRun ended rfl rfl
    rw [printed, resolution_plainMachine (by decide) absent named found resolved, ne_eq,
      Path.encode_display_lineFeed_iff]
    decide +kernel
  · intro stamp
    have same : Path.display ⟨[slash, 0xFF]⟩ = Path.display ⟨[slash, 0xFE]⟩ := by decide +kernel
    exact InitScript.forShell_eq_iff.2 same

end HostHome
