import HostHome.Failure.Cause

/-!
# Exit statuses of failures

A failure is a chain of layers: the contexts around it, its cause, and the error of the
system behind the cause.  The first error of the system in this chain gives the exit
status, so that no context changes it, and it is never the status of success.
-/

namespace HostHome

/-- One layer of a failure: words, or an error of the system with words of its own. -/
inductive Layer where
  | words (text : String)
  | system (error : SystemError)

namespace Layer

def error? : Layer → Option SystemError
  | words _ => none
  | system error => some error

end Layer

/-- The layers of a cause: its own words and what is behind them. An error of the system that is
the cause itself has no other words. -/
def Cause.layers : Cause → List Layer
  | .system source => [.system source]
  | cause => .words cause.message :: cause.source?.toList.map .system

/-- The exit status for an error of the system, if there is one. -/
def statusOf (error? : Option SystemError) : Nat :=
  match error?.bind SystemError.number? with
  | some number => if 0 < number ∧ number < 256 then number.toNat else 1
  | none => 1

theorem statusOf_ne_zero (error? : Option SystemError) : statusOf error? ≠ 0 := by
  unfold statusOf
  split
  · split
    · omega
    · decide
  · decide

theorem statusOf_code {number : Int} (positive : 1 ≤ number) (small : number ≤ 255) :
    (statusOf (some (.code number)) : Int) = number := by
  have fits : 0 < number ∧ number < 256 := by omega
  simp only [statusOf, Option.bind_some, SystemError.number?, if_pos fits]
  omega

theorem statusOf_eq_one {error? : Option SystemError}
    (other : ∀ number, error? = some (.code number) → ¬ (1 ≤ number ∧ number ≤ 255)) :
    statusOf error? = 1 := by
  unfold statusOf
  split
  · next number found =>
      obtain ⟨error, rfl, numbered⟩ := Option.bind_eq_some_iff.1 found
      cases error with
      | code own =>
          cases numbered
          have outside := other number rfl
          rw [if_neg (by omega)]
      | zeroInPath | zeroInArgument | described => cases numbered
  · rfl

namespace Failure

variable {failure : Failure}

def layers (failure : Failure) : List Layer :=
  failure.contexts.map .words ++ failure.cause.layers

theorem findSome?_layers (failure : Failure) :
    failure.layers.findSome? Layer.error? = failure.cause.source? := by
  have contexts : (failure.contexts.map Layer.words).findSome? Layer.error? = none := by
    simp [Layer.error?]
  rw [layers, List.findSome?_append, contexts, Option.none_or]
  cases failure.cause <;> rfl

theorem cause_foldl_within (contexts : List String) (failure : Failure) :
    (contexts.foldl within failure).cause = failure.cause := by
  induction contexts generalizing failure with
  | nil => rfl
  | cons context rest ih => exact ih (failure.within context)

/-- The exit status tells of the error of the system, if there is one, under any contexts. -/
structure Tells (failure : Failure) (error? : Option SystemError) : Prop where
  first : ∀ contexts : List String,
    (contexts.foldl within failure).layers.findSome? Layer.error? = error?
  under : ∀ contexts : List String, (contexts.foldl within failure).exitCode = failure.exitCode
  nonzero : failure.exitCode ≠ 0
  number : ∀ number : Int, error? = some (.code number) → 1 ≤ number → number ≤ 255 →
    (failure.exitCode : Int) = number
  otherwise : (∀ number, error? = some (.code number) → ¬ (1 ≤ number ∧ number ≤ 255)) →
    failure.exitCode = 1

theorem tells_source? (failure : Failure) : failure.Tells failure.cause.source? := by
  have status : failure.exitCode = statusOf failure.cause.source? := rfl
  refine ⟨fun contexts => ?_, fun contexts => ?_, ?_, fun number given => ?_, ?_⟩
  · rw [findSome?_layers, cause_foldl_within]
  · rw [exitCode, cause_foldl_within, exitCode]
  · rw [status]
    exact statusOf_ne_zero _
  · rw [status, given]
    exact statusOf_code
  · rw [status]
    exact statusOf_eq_one

end Failure

end HostHome
