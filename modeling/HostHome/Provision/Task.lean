import HostHome.Provision.Context

/-!
# Tasks

A run is a list of tasks. Each task is recorded with what became of it: it does
not apply, it is done, it had nothing to do, or it failed.
-/

namespace HostHome.Provision

/-- What comes of a task that does not fail. -/
inductive TaskResult where
  | done
  | skipped (reason : String)
  deriving DecidableEq, Repr

/-- A task: its name, whether it applies, and what it does. -/
structure Task where
  name : String
  applies : Context → FileSystem → Bool := fun _ _ => true
  run : Context → Run TaskResult

/-- Record that a task failed, and fail. A violation is no failure of the task. -/
def Task.recordFailure (task : Task) (stop : Stop) : Run TaskResult := do
  match stop with
  | .failure failure => Run.record task.name .failed (some failure.fullMessage)
  | .violation _ => pure ()
  throw stop

/-- Run a task and record what becomes of it. -/
def Task.execute (context : Context) (task : Task) : Run Unit := do
  if task.applies context (← Run.files) then
    Run.debug ("running task: " ++ task.name)
    match ← tryCatch (task.run context) task.recordFailure with
    | .done => Run.record task.name .ok
    | .skipped reason =>
        Run.debug (task.name ++ ": skipped: " ++ reason)
        Run.record task.name .skipped (some reason)
  else
    Run.debug ("skipping task: " ++ task.name ++ " (not applicable)")
    Run.record task.name .notApplicable

/-- Run tasks up to the first that fails. -/
def executeAll (context : Context) : List Task → Run Unit
  | [] => pure ()
  | task :: rest => do
      task.execute context
      executeAll context rest

def Task.reportFailure (task : Task) (stop : Stop) : Run Unit :=
  match stop with
  | .failure failure => Run.error (task.name ++ ": " ++ failure.fullMessage)
  | .violation violation => throw (.violation violation)

/-- Run a task under a heading of its own. Its failure is reported. -/
def Task.attempt (context : Context) (task : Task) : Run Unit := do
  Run.stage task.name
  tryCatch (task.execute context) task.reportFailure

/-- Run every task, whatever becomes of the others. -/
def attemptAll (context : Context) : List Task → Run Unit
  | [] => pure ()
  | task :: rest => do
      task.attempt context
      attemptAll context rest

/-- Run every task and report the summary. Tasks that failed make it a failure. -/
def runToCompletion (context : Context) (tasks : List Task) : Run Unit := do
  attemptAll context tasks
  Run.summarize
  let failures := Log.failureCount (← get).record
  if 0 < failures then Run.fail (.other (toString failures ++ " task(s) failed"))

end HostHome.Provision
