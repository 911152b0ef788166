import HostHome.Proofs.Program
import HostHome.Proofs.Provision.HomeNames

/-!
# The directory of log files

The name of a log file comes from the name of a host, which is any text.  Slashes in it
lead into further directories, but never out of the directory of log files: the name of
a host ends before its first dot, so that no part of it is two dots, and the name of the
command before it keeps the whole from starting anew at the root.
-/

namespace HostHome

open HostHome.Text (Bytes)

namespace Log

variable {name : String} {piece : Bytes}

/-- A name without dots gives the path of a log file no dots but the one of its ending. -/
theorem ordinaryName_of_mem_pieces (noDot : '.' ∉ name.toList)
    (within : piece ∈ (Path.ofText (name ++ ".log")).pieces) (nonempty : piece ≠ []) :
    OrdinaryName piece := by
  have noSlash := Text.notMem_of_mem_piecesOf within
  obtain ⟨front, last, found, longer⟩ := Text.piecesOf_append_of_notMem
    (by decide : slash ∉ Text.encode ".log") (Text.encode name)
  have dotless {part : Bytes} (member : part ∈ front ++ [last]) : dot ∉ part := by
    intro dotted
    rw [← found] at member
    exact noDot (Text.mem_toList_of_mem_encode (Text.mem_of_mem_piecesOf member dotted) (by decide))
  rw [Path.pieces, Path.ofText, Text.encode_append, longer, List.mem_append,
    List.mem_singleton] at within
  rcases within with member | rfl
  · have free := dotless (List.mem_append_left _ member)
    exact ⟨nonempty, fun same => free (by simp [same]), fun same => free (by simp [same]), noSlash⟩
  · have long : 4 ≤ (last ++ Text.encode ".log").length := by
      rw [List.length_append]
      exact Nat.le_add_left 4 _
    exact ⟨nonempty, fun same => by simp [same] at long, fun same => by simp [same] at long,
      noSlash⟩

theorem commandName_cases (options : CommandLine.Options) :
    options.commandName = "test" ∨ options.commandName = "provision" := by
  unfold CommandLine.Options.commandName
  split <;> simp

theorem exists_logName (options : CommandLine.Options) (hostName : Except String String) :
    ∃ short, '.' ∉ short.toList ∧
      Machine.logName options hostName = options.commandName ++ "-" ++ short := by
  cases hostName with
  | ok name => exact ⟨_, Config.dot_notMem_shortHostName name, rfl⟩
  | error _ => exact ⟨"unknown", by decide, rfl⟩

theorem dot_notMem_logName (options : CommandLine.Options) (hostName : Except String String) :
    '.' ∉ (Machine.logName options hostName).toList := by
  obtain ⟨short, noDot, spelled⟩ := exists_logName options hostName
  rcases commandName_cases options with command | command <;> simp [spelled, command, noDot]

theorem isAbsolute_logFileName (options : CommandLine.Options)
    (hostName : Except String String) :
    (Path.ofText (Machine.logName options hostName ++ ".log")).isAbsolute = false := by
  obtain ⟨short, _, spelled⟩ := exists_logName options hostName
  rw [Bool.eq_false_iff, Ne, Path.isAbsolute_ofText_iff]
  rcases commandName_cases options with command | command <;> simp [spelled, command]

theorem goesOn_logDirectory (environment : Execution.Environment) :
    (cacheRoot environment).GoesOn [Text.encode logDirectoryName] (logDirectory environment) :=
  Path.goesOn_joinName (by decide) _

theorem bytes_logDirectory_ne_nil (environment : Execution.Environment) :
    (logDirectory environment).bytes ≠ [] :=
  Path.bytes_joinName_ne_nil (by decide) _

/-- The log file is reached from the directory of log files by names. -/
theorem exists_goesOn_logFile (environment : Execution.Environment)
    (options : CommandLine.Options) (hostName : Except String String) :
    ∃ names last, (∀ name ∈ names ++ [last ++ Text.encode ".log"], OrdinaryName name) ∧
      (logDirectory environment).GoesOn (names ++ [last ++ Text.encode ".log"])
        (logFileIn (logDirectory environment) (Machine.logName options hostName)) := by
  have noDot := dot_notMem_logName options hostName
  have ordinary : ∀ piece ∈ (Path.ofText (Machine.logName options hostName ++ ".log")).pieces,
      piece ≠ [] → OrdinaryName piece := fun _ => ordinaryName_of_mem_pieces noDot
  have goes := (Path.goesOn_refl (logDirectory environment)).join
    (bytes_logDirectory_ne_nil environment) (isAbsolute_logFileName options hostName) ordinary
  obtain ⟨front, last, _, longer⟩ := Text.piecesOf_append_of_notMem
    (by decide : slash ∉ Text.encode ".log") (Text.encode (Machine.logName options hostName))
  have pieces : (Path.ofText (Machine.logName options hostName ++ ".log")).pieces =
      front ++ [last ++ Text.encode ".log"] := by
    rw [Path.pieces, Path.ofText, Text.encode_append, longer]
  have ending : Text.encode ".log" ≠ [] := by decide
  have names : (front ++ [last ++ Text.encode ".log"]).filter (· ≠ []) =
      front.filter (· ≠ []) ++ [last ++ Text.encode ".log"] := by
    simp [ending]
  rw [pieces] at goes ordinary
  rw [List.nil_append, names] at goes
  refine ⟨front.filter (· ≠ []), last, fun name member => ?_, goes⟩
  rw [← names] at member
  obtain ⟨within, some⟩ := List.mem_filter.1 member
  exact ordinary name within (by simpa using some)

theorem bytes_logFileIn {directory : Path} {name : String}
    (relative : (Path.ofText (name ++ ".log")).isAbsolute = false) :
    Text.encode ".log" <:+ (logFileIn directory name).bytes := by
  obtain ⟨middle, _, bytes⟩ := Path.bytes_join directory relative
  refine ⟨directory.bytes ++ middle ++ Text.encode name, ?_⟩
  rw [logFileIn, Path.joinText, bytes, Path.ofText, Text.encode_append, List.append_assoc]

theorem writeFile_of_openLogFile {files later : FileSystem} {now : Calendar.Moment} {file : Path}
    {inode : Nat} (opened : openLogFile files now file = some (later, inode)) :
    files.writeFile file (Text.encode (header now)) = .ok later := by
  unfold openLogFile at opened
  split at opened
  · cases opened
  · next written =>
      split at opened
      · cases opened
        exact written
      · cases opened

end Log

namespace Machine

/-- The log file of a run. -/
def logFile (machine : Machine) (options : CommandLine.Options) : Path :=
  Log.logFileIn (Log.logDirectory machine.environment)
    (logName options (machine.hostNameFor options))

/-- How a run begins, in the files that are there after the attempt to create the directory of log
files.  It has a log file if the attempt succeeds, and it writes no other file. -/
def Begins (machine : Machine) (options : CommandLine.Options) (prepared : FileSystem) :
    Except SystemError Unit → Prop
  | .error _ =>
      (machine.worldAtStart options).logFile = none ∧
        (machine.worldAtStart options).files = prepared
  | .ok () =>
      (machine.worldAtStart options).logFile = some (machine.logFile options) ∧
        ((machine.worldAtStart options).files = prepared ∨
          prepared.writeFile (machine.logFile options) (Text.encode (Log.header machine.now)) =
            .ok (machine.worldAtStart options).files)

theorem begins_of_createAll {machine : Machine} {options : CommandLine.Options}
    {prepared : FileSystem} {result : Except SystemError Unit}
    (created : machine.files.createAll (Log.logDirectory machine.environment) =
      (prepared, result)) : machine.Begins options prepared result := by
  cases result with
  | error error =>
      have absent : Log.prepareLogFile machine.files machine.environment
          (logName options (machine.hostNameFor options)) = (prepared, none) := by
        simp only [Log.prepareLogFile, created]
      simp [Begins, worldAtStart, absent]
  | ok =>
      have found : Log.prepareLogFile machine.files machine.environment
          (logName options (machine.hostNameFor options)) =
            (prepared, some (machine.logFile options)) := by
        simp only [Log.prepareLogFile, created]
        rfl
      have starts : (machine.worldAtStart options).files =
          ((Log.openLogFile prepared machine.now (machine.logFile options)).map Prod.fst).getD
            prepared := by
        simp [worldAtStart, found]
      refine ⟨by simp [worldAtStart, found], ?_⟩
      rw [starts]
      cases opened : Log.openLogFile prepared machine.now (machine.logFile options) with
      | none => exact .inl rfl
      | some written => exact .inr (Log.writeFile_of_openLogFile opened)

end Machine

/-- The log file that a run begins goes on from the directory of log files by names, the last of
which has the ending of log files.  This holds for any name of a host, and whatever directory of
caches the environment gives. -/
theorem log_file_stays_in_directory (machine : Machine) (options : CommandLine.Options) :
    let directory := Log.logDirectory machine.environment
    (Log.cacheRoot machine.environment).GoesOn [Text.encode Log.logDirectoryName] directory ∧
    (∃ names last, (∀ name ∈ names ++ [last ++ Text.encode ".log"], OrdinaryName name) ∧
      directory.GoesOn (names ++ [last ++ Text.encode ".log"]) (machine.logFile options)) ∧
    Text.encode ".log" <:+ (machine.logFile options).bytes ∧
    ∃ prepared result, machine.files.createAll directory = (prepared, result) ∧
      machine.Begins options prepared result :=
  ⟨Log.goesOn_logDirectory _, Log.exists_goesOn_logFile _ _ _,
    Log.bytes_logFileIn (Log.isAbsolute_logFileName _ _), _, _, rfl,
    Machine.begins_of_createAll rfl⟩

/-- The name of a host may have slashes, and dots behind them. -/
example :
    Log.logFileIn (.ofText "/cache/multihome")
        (Machine.logName {} (.ok "a//b/../../c")) =
      .ofText "/cache/multihome/provision-a//b/.log" := by
  cbv

end HostHome
