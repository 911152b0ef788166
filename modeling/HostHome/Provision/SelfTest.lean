import HostHome.FileSystem.Tree
import HostHome.Provision.Task
import HostHome.Config.Transfer

/-!
# Self-tests

Check that the surroundings of the program work as it needs them, and that the
configuration files hold no mistakes.
-/

namespace HostHome.Provision

open HostHome.Config
open HostHome.Execution (Command)

def failCheck {α : Type} (message : String) : Run α := Run.fail (.other message)

/-- Check that the sync tool starts and reports its version. -/
def checkSyncTool : Task where
  name := "Check sync tool"
  run context := do
    let program := context.sync.program.display
    let output ← Run.output context.sync.executor context.sync.versionCommand
    if !output.succeeded then
      failCheck (program ++ " --version exited with status " ++ toString output.code)
    Run.info (program ++ ": " ++ (Text.lines output.stdout).headD "")
    return .done

/-- A program that no host has. -/
def missingProgram : Path := .ofText "/nonexistent/multihome-self-test"

def echoName : String := "echo"

/-- Check that a program can be run, and that a missing one is noticed. -/
def checkExecution : Task where
  name := "Check process execution"
  run context := do
    let executor := context.sync.executor
    match ← Run.findProgram? (.ofText echoName) with
    | none => Run.fail (.commandNotFound echoName)
    | some echo =>
        let output ← Run.output executor ⟨echo, [Text.encode "testing"]⟩
        if !output.succeeded || Text.trimEnd output.stdout ≠ "testing" then
          failCheck (echo.display ++ " testing: status " ++ toString output.code ++ ", output "
            ++ Text.quoted output.stdout)
        Run.debug (echo.display ++ " testing: ok")
        match ← Run.command executor ⟨missingProgram, []⟩ with
        | .error (.notFound _) => return .done
        | .error fault =>
            failCheck (missingProgram.display ++ ": expected not found, got " ++ fault.cause.message)
        | .ok output =>
            failCheck (missingProgram.display ++ ": expected not found, got status "
              ++ toString output.code)

/-- Check that texts are split as paths need it. -/
def checkText : Task where
  name := "Check text utilities"
  run _ := do
    let sample := "one two three"
    if Text.countOccurrences sample " " ≠ 2 then failCheck "fields are not counted"
    if Text.splitOn sample " " ≠ ["one", "two", "three"] then failCheck "fields are not split"
    if Text.splitOn "nothing" "," ≠ ["nothing"] then failCheck "a single field is split"
    return .done

/-- The variable that holds the directory for temporary files. -/
def temporaryVariable : String := "TMPDIR"

/-- The directory for temporary files, where no variable holds one. -/
def defaultTemporary : Path := .ofText "/tmp"

/-- A directory for the checks of one process. -/
def scratchDirectory (world : World) : Path :=
  let temporary := (world.environment.get? temporaryVariable).map Path.mk
  (temporary.getD defaultTemporary).joinText
    ("multihome-self-test-" ++ toString world.processId)

/-- Create a tree of directories and a file in it, each of them twice. -/
def exerciseFiles (scratch : Path) : Run Unit := do
  let tree := scratch.joinText "this/is/a/test"
  Run.changeStepwise (fun files => files.ensureTree tree) .system
  Run.changeStepwise (fun files => files.ensureTree tree) .system
  if !(← Run.files).isDirectory tree then failCheck (tree.display ++ " was not created")
  let file := tree.joinText "file"
  Run.change (fun files => files.touch file) .system
  Run.change (fun files => files.touch file) .system
  if !(← Run.files).isFile file then failCheck (file.display ++ " was not created")

/-- Remove the directory of the checks. If that is impossible, warn. -/
def removeScratch (scratch : Path) : Run Unit := do
  match (← Run.files).removeTree scratch with
  | .ok files => Run.setFiles files
  | .error error => Run.warn ("cannot remove " ++ scratch.display ++ ": " ++ error.message)

/-- Check that directories and files can be created. What was created is removed, be the check a
success or a failure. -/
def checkFiles : Task where
  name := "Check filesystem primitives"
  run _ := do
    let scratch := scratchDirectory (← get)
    tryCatch (exerciseFiles scratch) fun stop => do
      removeScratch scratch
      throw stop
    removeScratch scratch
    return .done

def reportErrors : List Diagnostic → Run Unit
  | [] => pure ()
  | diagnostic :: rest => do
      Run.error diagnostic.display
      reportErrors rest

/-- What the host-group file says about a host, in words. -/
def ruleReport {language : PatternLanguage} (rules : List (HostRule language))
    (shortName : String) : String :=
  let count := toString rules.length ++ " rule(s), "
  match rules.find? fun rule => rule.appliesTo shortName with
  | some rule =>
      count ++ shortName ++ " maps to " ++ rule.replacement ++ " (line " ++ toString rule.line
        ++ ")"
  | none => count ++ "none match " ++ shortName

/-- Check that every line of the host-group file is a rule. -/
def validateHostGroups (language : PatternLanguage) : Task where
  name := "Validate host groups"
  applies context files := files.exists? context.layout.hostGroupFile
  run context := do
    let file := context.layout.hostGroupFile
    let text ← Run.ofExcept ((← Run.files).readConfig file)
    let (rules, diagnostics) := parseRules language file text.content
    let found := text.diagnostics ++ diagnostics
    reportErrors found
    if found ≠ [] then failCheck (toString found.length ++ " invalid host group line(s)")
    Run.info (ruleReport rules context.identity.shortName)
    return .done

def warnMissingSources (file sharedHome : Path) : List Directive → Run Unit
  | [] => pure ()
  | directive :: rest => do
      let source := sharedHome.joinText directive.path
      if !(← Run.files).hasEntry source then
        Run.warn (Diagnostic.display
          ⟨file, directive.line, "source does not exist: " ++ source.display⟩)
      warnMissingSources file sharedHome rest

/-- Check that every line of the transfer file is a directive. -/
def validateTransfers : Task where
  name := "Validate transfer config"
  applies context files := files.exists? context.layout.transferFile
  run context := do
    let file := context.layout.transferFile
    let text ← Run.ofExcept ((← Run.files).readConfig file)
    let (directives, diagnostics) := parseDirectives file text.content
    let found := text.diagnostics ++ diagnostics
    reportErrors found
    if found ≠ [] then failCheck (toString found.length ++ " invalid transfer line(s)")
    warnMissingSources file context.layout.sharedHome directives
    if directives.isEmpty then return .skipped "no directives"
    Run.info (toString directives.length ++ " transfer directive(s)")
    return .done

def checks (language : PatternLanguage) : List Task :=
  [checkSyncTool, checkExecution, checkText, checkFiles, validateHostGroups language,
    validateTransfers]

def selfTest (language : PatternLanguage) (context : Context) : Run Unit :=
  runToCompletion context (checks language)

end HostHome.Provision
