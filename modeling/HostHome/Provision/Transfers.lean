import HostHome.Config.Transfer
import HostHome.Link
import HostHome.Provision.Context

/-!
# Transfers

Bring the files that a transfer file names into a per-host home: as links to the
files of the shared home, or as copies of them. Each file appears under its last
name, directly in the per-host home. A directive that fails does not stop the
others.
-/

namespace HostHome.Provision

open HostHome.Config

structure TransferReport where
  /-- Links that were created, and copies that succeeded. -/
  applied : Nat := 0
  /-- Links that were there. -/
  alreadyPresent : Nat := 0
  /-- Directives that failed. -/
  failed : Nat := 0
  /-- Lines that are no directives. -/
  invalid : Nat := 0
  deriving DecidableEq, Repr

def TransferReport.add (report other : TransferReport) : TransferReport :=
  ⟨report.applied + other.applied, report.alreadyPresent + other.alreadyPresent,
    report.failed + other.failed, report.invalid + other.invalid⟩

def TransferReport.text (report : TransferReport) : String :=
  "transfer: " ++ toString report.applied ++ " applied, " ++ toString report.alreadyPresent
    ++ " already present, " ++ toString report.failed ++ " failed, " ++ toString report.invalid
    ++ " invalid"

inductive DirectiveOutcome where
  | applied
  | alreadyPresent
  | failed (message : String)
  deriving DecidableEq, Repr

structure TransferRoots where
  /-- The shared home. -/
  source : Path
  /-- The per-host home. -/
  destination : Path
  deriving DecidableEq, Repr

/-- The file that a directive names, in the shared home. -/
def TransferRoots.sourceOf (roots : TransferRoots) (directive : Directive) : Path :=
  roots.source.joinText directive.path

/-- Where the file of a directive appears: under its last name, in the per-host home. -/
def TransferRoots.destinationOf? (roots : TransferRoots) (directive : Directive) : Option Path :=
  (roots.sourceOf directive).fileName?.map fun name => roots.destination.join ⟨name⟩

/-- The link that a directive of a kind of links asks for. -/
def linkKind? : TransferKind → Option LinkKind
  | .symbolicLink => some .symbolic
  | .hardLink => some .hard
  | .copy => none

def applyCopy (sync : SyncTool) (mode : CopyMode) (source destination : Path) :
    Run DirectiveOutcome := do
  Run.debug ("copy " ++ source.display ++ " -> " ++ destination.display)
  match ← Run.copy sync source destination mode with
  | .ok output =>
      if output.succeeded then return .applied
      else return .failed (failureMessage source output)
  | .error fault => return .failed fault.cause.message

def applyLink (link : Link) : Run DirectiveOutcome := do
  Run.debug (link.kind.description ++ " " ++ link.description)
  match link.ensure (← Run.files) with
  | .ok (.applied, files) =>
      Run.setFiles files
      return .applied
  | .ok (.alreadyCorrect, _) => return .alreadyPresent
  | .ok (.skipped occupant, _) =>
      return .failed (link.destination.display ++ ": " ++ skipReason occupant)
  | .error cause => return .failed (Failure.fullMessage ⟨cause, []⟩)

def applyDirective (roots : TransferRoots) (sync : SyncTool) (mode : CopyMode)
    (directive : Directive) : Run DirectiveOutcome :=
  let source := roots.sourceOf directive
  match roots.destinationOf? directive with
  | none => return .failed ("no destination name for " ++ source.display)
  | some destination =>
      match linkKind? directive.kind with
      | none => applyCopy sync mode source destination
      | some kind => applyLink ⟨kind, source, destination⟩

/-- Count what came of a directive. A failure is a warning about its line. -/
def countOutcome (file : Path) (directive : Directive) :
    DirectiveOutcome → Run TransferReport
  | .applied => return { applied := 1 }
  | .alreadyPresent => return { alreadyPresent := 1 }
  | .failed message => do
      Run.warn (Diagnostic.display ⟨file, directive.line, message⟩)
      return { failed := 1 }

def applyLine (file : Path) (roots : TransferRoots) (sync : SyncTool) (mode : CopyMode)
    (line : Line) : Run TransferReport := do
  let (directive, diagnostics) := Directive.ofLine file line
  warnAll diagnostics
  match directive with
  | none => return { invalid := 1 }
  | some directive => countOutcome file directive (← applyDirective roots sync mode directive)

def applyLines (file : Path) (roots : TransferRoots) (sync : SyncTool) (mode : CopyMode) :
    List Line → Run TransferReport
  | [] => return {}
  | line :: rest => do
      let report ← applyLine file roots sync mode line
      return report.add (← applyLines file roots sync mode rest)

def applyText (file : Path) (roots : TransferRoots) (sync : SyncTool) (mode : CopyMode)
    (text : FileText) : Run TransferReport := do
  warnAll text.diagnostics
  let report ← applyLines file roots sync mode (directiveLines text.content)
  let report := TransferReport.add { invalid := text.diagnostics.length } report
  Run.debug report.text
  return report

/-- Apply a transfer file. A file that is missing has no directives, and one that cannot be read is
not applied. -/
def applyTransferFile (file : Path) (roots : TransferRoots) (sync : SyncTool) (mode : CopyMode) :
    Run (Except Cause TransferReport) := do
  match (← Run.files).readConfig file with
  | .error cause => return .error cause
  | .ok text => return .ok (← applyText file roots sync mode text)

end HostHome.Provision
