import HostHome.Log.Event
import HostHome.Path.Basic

/-!
# Records of tasks

A run keeps a record of its tasks and what became of each. The summary shows the
record task by task and counts the tasks of each status.
-/

namespace HostHome.Log

/-- What became of a task. -/
inductive TaskStatus where
  | ok
  /-- The task does not apply to the run. -/
  | notApplicable
  /-- There was nothing to do. -/
  | skipped
  | failed
  deriving DecidableEq, Repr

def TaskStatus.name : TaskStatus → String
  | ok => "ok"
  | notApplicable => "n/a"
  | skipped => "skipped"
  | failed => "failed"

def TaskStatus.sign : TaskStatus → String
  | ok => "✓"
  | notApplicable => "·"
  | skipped => "○"
  | failed => "✗"

def TaskStatus.colour : TaskStatus → String
  | ok => green
  | notApplicable => dim
  | skipped => yellow
  | failed => red

structure TaskEntry where
  name : String
  status : TaskStatus
  message : Option String := none
  deriving DecidableEq, Repr

/-- The number of tasks with a status. It has no bound: a counter of 32 bits agrees with it as long as
the record has fewer than 2 ^ 32 tasks. -/
def countStatus (status : TaskStatus) (record : List TaskEntry) : Nat :=
  record.countP fun entry => entry.status = status

def failureCount (record : List TaskEntry) : Nat := countStatus .failed record

def TaskEntry.summaryText (entry : TaskEntry) : String :=
  let suffix := match entry.message with
    | some message => " (" ++ message ++ ")"
    | none => ""
  entry.status.colour ++ entry.status.sign ++ " " ++ entry.name ++ suffix ++ plain

/-- The number of tasks with a status, in its colour. -/
def statusTotal (record : List TaskEntry) (status : TaskStatus) : String :=
  status.colour ++ toString (countStatus status record) ++ " " ++ status.name ++ plain

/-- The line of the summary for all tasks. Like the single numbers, their sum has no bound. -/
def totalText (record : List TaskEntry) : String :=
  let total := countStatus .ok record + countStatus .notApplicable record
    + countStatus .skipped record + countStatus .failed record
  toString total ++ " tasks: "
    ++ ", ".intercalate ([.ok, .notApplicable, .skipped, .failed].map (statusTotal record))

def logFileText (file : Path) : String := dim ++ "log: " ++ file.display ++ plain

/-- The summary of a record. A record without tasks has none. -/
def summary (record : List TaskEntry) (logFile : Option Path) : List Event :=
  if record = [] then []
  else
    [⟨.stage, "Summary"⟩] ++ record.map (fun entry => ⟨.info, entry.summaryText⟩)
      ++ [⟨.info, totalText record⟩] ++ logFile.toList.map fun file => ⟨.info, logFileText file⟩

end HostHome.Log
